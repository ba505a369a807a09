import TraceAgent.Proofs.Native.Run

/-! Where the spans of a context come from.

A span is created under the span that is active at that time. It keeps this
place and its role through whatever happens to it, also when its segment is
reported. So a step can do one of three things to the spans of a context: leave
their places alone, add a span behind those of the open segment, or report the
segment, which then shows the places of its spans in the order in which they
finished.
-/

set_option autoImplicit false

namespace TraceAgent.Segment

/-- The place of a reported span: its id, the id of its parent, and its role. -/
def SpanRecord.place (record : SpanRecord) : Int × Int × Role :=
  (record.id, record.parentId, record.role)

end TraceAgent.Segment

namespace TraceAgent.Native

open Segment Propagation

namespace Descent

def parentId (descent : Descent) : Int :=
  match descent.parent with
  | some parent => parent
  | none => -1

def place (descent : Descent) (number : Nat) : Int × Int × Role :=
  (number, descent.parentId, descent.role)

end Descent

theorem map_descent_modify (spans : List Span) (index : Nat) {change : Span → Span}
    (keeps : ∀ span, (change span).descent = span.descent) :
    (spans.modify index change).map Span.descent = spans.map Span.descent := by
  induction spans generalizing index with
  | nil => rw [List.modify_nil]
  | cons span rest ih =>
    cases index with
    | zero => rw [List.modify_zero_cons, List.map_cons, List.map_cons, keeps]
    | succ index => rw [List.modify_succ_cons, List.map_cons, List.map_cons, ih]

/-- The report shows the spans of a segment at their places, in the order in which they
finished. -/
structure Depicts (report : Segment) (descents : List Descent) (order : List Nat) : Prop where
  numbered : order.Perm (List.range descents.length)
  places : report.spans.map (fun record => some record.place) =
    order.map fun number => (descents[number]?).map (·.place number)

namespace OpenSegment

variable {opened : OpenSegment}

theorem newSpan_descent (opened : OpenSegment) (now : Int) (extension : Extension) (role : Role)
    (name peer : String) :
    (opened.newSpan now extension role name peer).descent = ⟨opened.active.head?, role⟩ := by
  unfold newSpan
  cases opened.taken? role with
  | none => rfl
  | some pending => exact Span.continueFrom_descent _ _ _ _

theorem places_close (sound : opened.Sound) :
    opened.close.spans.map (fun record => some record.place) =
      opened.finished.map fun number =>
        ((opened.spans.map Span.descent)[number]?).map (·.place number) := by
  change (opened.finished.filterMap _).map _ = _
  have present : ∀ number ∈ opened.finished, number < opened.spans.length :=
    fun number member => sound.mem_lt (List.mem_append_right _ member)
  generalize opened.finished = finished at present
  induction finished with
  | nil => rfl
  | cons number rest ih =>
    have here := present number List.mem_cons_self
    have others := ih fun other member => present other (List.mem_cons_of_mem _ member)
    rw [List.filterMap_cons, List.getElem?_eq_getElem here, List.map_cons, List.getElem?_map,
      List.getElem?_eq_getElem here]
    exact congrArg (_ :: ·) others

end OpenSegment

namespace Context

variable {context : Context} {moment : Moment} {key : SpanKey}

def segmentSpans (context : Context) (segment : Nat) : List Span :=
  if segment = context.past.length then context.spans else (context.past[segment]?).getD []

/-- Where the spans of a segment come from, in the order of their numbers. -/
def descents (context : Context) (segment : Nat) : List Descent :=
  (context.segmentSpans segment).map Span.descent

/-- The finished spans of the open segment in the order in which they finished, and behind them
the active ones, innermost first, as they would finish. -/
def finishing (context : Context) : List Nat :=
  (context.current.map fun opened => opened.finished ++ opened.active).getD []

theorem descents_open (context : Context) :
    context.descents context.past.length = context.spans.map Span.descent := by
  unfold descents segmentSpans
  rw [if_pos rfl]

theorem finishing_opened (context : Context) (moment : Moment) :
    (context.opened moment).finished ++ (context.opened moment).active = context.finishing := by
  unfold opened finishing
  cases context.current <;> rfl

theorem descents_setCurrent {context other : Context} (past : other.past = context.past)
    (same : other.spans.map Span.descent = context.spans.map Span.descent) :
    other.descents = context.descents := by
  funext segment
  unfold descents segmentSpans
  rw [past]
  split
  · exact same
  · rfl

theorem descents_modifySpan (key : SpanKey) {change : Span → Span}
    (keeps : ∀ span, (change span).descent = span.descent) :
    (context.modifySpan key change).descents = context.descents := by
  funext segment
  unfold descents segmentSpans
  rw [length_past_modifySpan, spans_modifySpan, past_modifySpan]
  by_cases here : segment = context.past.length
  · rw [if_pos here, if_pos here]
    split
    · exact map_descent_modify _ _ keeps
    · rfl
  · rw [if_neg here, if_neg here]
    split
    · rfl
    · rw [List.getElem?_modify]
      cases context.past[segment]? with
      | none => rfl
      | some spans =>
        by_cases same : key.segment = segment
        · simpa [same] using map_descent_modify spans key.index keeps
        · simp [same]

theorem finishing_modifySpan (change : Span → Span) :
    (context.modifySpan key change).finishing = context.finishing := by
  unfold finishing
  rw [current_modifySpan]
  split
  · cases context.current <;> rfl
  · rfl

/-- Reporting a segment leaves its spans with their numbers under its number. -/
theorem descents_settle (context : Context) : context.settle.1.descents = context.descents := by
  by_cases done : context.IsDone
  · cases current : context.current with
    | none => rw [settle_of_none current]
    | some opened =>
      rw [settle_of_done current done]
      funext segment
      unfold descents segmentSpans
      rw [spans_of_current current, List.length_append, List.length_singleton]
      by_cases here : segment = context.past.length
      · rw [if_neg (by omega), if_pos here, here, List.getElem?_concat_length]
        rfl
      · rw [if_neg here]
        by_cases beyond : segment = context.past.length + 1
        · -- the number of the next segment, which has no spans yet
          rw [if_pos beyond, List.getElem?_eq_none (by omega)]
          rfl
        · rw [if_neg beyond, getElem?_concat, if_neg here]
  · rw [settle_of_not_done done]

theorem descents_join (pending : Pending) (correlation : Correlation) (extension : Extension) :
    (context.join moment pending correlation extension).descents = context.descents := by
  refine descents_setCurrent rfl ?_
  change ((context.opened moment).link _ _ _).spans.map _ = _
  rw [OpenSegment.link_eq, ← context.spans_opened moment]
  split
  next host _ => exact map_descent_modify _ host fun span => span.continueFrom_descent _ _ _
  next => rfl

theorem finishing_join (pending : Pending) (correlation : Correlation) (extension : Extension) :
    (context.join moment pending correlation extension).finishing = context.finishing := by
  change ((context.opened moment).link _ _ _).finished ++ ((context.opened moment).link _ _ _).active
    = context.finishing
  rw [OpenSegment.link_eq, ← context.finishing_opened moment]
  split <;> rfl

theorem descents_leave {opened : OpenSegment} (current : context.current = some opened)
    (now : Int) (index : Nat) :
    { context with current := some (opened.leave now index) }.descents = context.descents := by
  refine descents_setCurrent rfl ?_
  rw [spans_of_current current]
  change (opened.leave now index).spans.map _ = _
  rw [OpenSegment.spans_leave]
  exact map_descent_modify _ index fun span => span.leave_descent now

/-- The innermost span is the next to finish, so finishing it changes nothing in the order. -/
theorem finishing_leave {opened : OpenSegment} (sound : opened.Sound)
    (current : context.current = some opened) {index : Nat} {rest : List Nat}
    (active : opened.active = index :: rest) (now : Int) :
    { context with current := some (opened.leave now index) }.finishing = context.finishing := by
  obtain ⟨span, lookup, _⟩ := sound.entered index (active ▸ List.mem_cons_self)
  unfold finishing
  rw [current]
  change (opened.leave now index).finished ++ (opened.leave now index).active =
    opened.finished ++ opened.active
  rw [OpenSegment.leave_eq active lookup]
  split
  · rfl
  · change (opened.finished ++ [index]) ++ rest = _
    rw [active, List.append_assoc]
    rfl

theorem descents_push {role : Role} (name peer : String)
    (alone : (context.opened moment).shared? role = none) (segment : Nat) :
    (context.createSpan moment role name peer).1.descents segment =
      if segment = context.past.length then
        context.descents segment ++ [⟨context.active.head?, role⟩]
      else context.descents segment := by
  rw [createSpan_of_not_shared name peer alone]
  split
  next here =>
    rw [here, context.descents_open, ← context.active_opened moment,
      ← context.spans_opened moment]
    refine (descents_open _).trans ?_
    change ((context.opened moment).spans ++ [_]).map _ = _
    rw [List.map_append, List.map_singleton, OpenSegment.newSpan_descent]
  next other =>
    unfold descents segmentSpans
    rw [if_neg other, if_neg other]

theorem finishing_push {role : Role} (name peer : String)
    (alone : (context.opened moment).shared? role = none) :
    (context.createSpan moment role name peer).1.finishing =
      (context.opened moment).finished ++ context.spans.length :: context.active := by
  rw [createSpan_of_not_shared name peer alone, ← context.spans_opened moment,
    ← context.active_opened moment]
  rfl

theorem descents_shared {role : Role} {index : Nat} (name peer : String)
    (shares : (context.opened moment).shared? role = some index) :
    (context.createSpan moment role name peer).1.descents = context.descents := by
  rw [createSpan_of_shared name peer shares]
  refine descents_setCurrent rfl ?_
  change ((context.opened moment).spans.modify index _).map _ = _
  rw [spans_opened]
  refine map_descent_modify _ index fun span => ?_
  split <;> rfl

theorem finishing_shared {role : Role} {index : Nat} (name peer : String)
    (shares : (context.opened moment).shared? role = some index) :
    (context.createSpan moment role name peer).1.finishing = context.finishing := by
  rw [createSpan_of_shared name peer shares, ← context.finishing_opened moment]
  rfl

/-- What a step does to the places of the spans, and what it reports. -/
inductive Growth (context after : Context) : Option Segment → Prop where
  | kept (past : after.past.length = context.past.length)
      (descents : after.descents = context.descents)
      (finishing : after.finishing = context.finishing) : Growth context after none
  | added (role : Role) (finished : List Nat)
      (past : after.past.length = context.past.length)
      (descents : ∀ segment, after.descents segment =
        if segment = context.past.length then
          context.descents segment ++ [⟨context.active.head?, role⟩]
        else context.descents segment)
      (before : context.finishing = finished ++ context.active)
      (finishing : after.finishing = finished ++ context.spans.length :: context.active)
      (alone : ∀ top above, context.active.head? = some top →
        (context.descents context.past.length)[top]? = some above → above.role = role →
          role = .inner) : Growth context after none
  | reported (report : Segment) (past : after.past.length = context.past.length + 1)
      (descents : after.descents = context.descents) (closed : after.current = none)
      (depicts : Depicts report (context.descents context.past.length) context.finishing) :
      Growth context after (some report)

/-- A segment that is reported is depicted as it was. -/
theorem growth_settle {middle : Context}
    (shape : ∀ opened, middle.current = some opened → opened.Sound)
    (past : middle.past.length = context.past.length)
    (descents : middle.descents = context.descents)
    (finishing : middle.finishing = context.finishing) :
    Growth context middle.settle.1 middle.settle.2 := by
  have kept := middle.descents_settle
  cases handed : middle.settle.2 with
  | none =>
    rw [settle_of_quiet handed]
    exact .kept past descents finishing
  | some report =>
    obtain ⟨opened, current, done, rfl, settled⟩ := settle_eq_some handed
    have sound := shape opened current
    have idle : opened.active = [] := by rw [← active_of_current current]; exact done.1
    have order : middle.finishing = opened.finished := by
      unfold Context.finishing
      rw [current]
      change opened.finished ++ opened.active = _
      rw [idle, List.append_nil]
    have numbered := sound.numbered
    rw [idle, List.nil_append] at numbered
    refine .reported opened.close ?_ (kept.trans descents) ?_ ?_
    · rw [settled, ← past]
      exact List.length_append
    · rw [settled]
    · rw [← descents, ← past, ← finishing, order, descents_open, spans_of_current current]
      exact ⟨by rwa [List.length_map], opened.places_close sound⟩

theorem Change.growth {paired : Bool} {after : Context} {report : Option Segment}
    (change : Change context moment paired after report) (sound : context.Sound) :
    Growth context after report := by
  cases change with
  | stay => exact .kept rfl rfl rfl
  | create role name peer =>
    cases shares : (context.opened moment).shared? role with
    | some index =>
      refine .kept ?_ (descents_shared name peer shares) (finishing_shared name peer shares)
      rw [createSpan_of_shared name peer shares]
    | none =>
      refine .added role (context.opened moment).finished ?_ (descents_push name peer shares) ?_
        (finishing_push name peer shares) ?_
      · rw [createSpan_of_not_shared name peer shares]
      · rw [← context.active_opened moment, finishing_opened]
      · -- An active entry or exit span would have been shared by one of its role.
        intro top above innermost lookup same
        rw [descents_open, List.getElem?_map] at lookup
        obtain ⟨span, found, rfl⟩ := Option.map_eq_some_iff.mp lookup
        rw [← context.active_opened moment] at innermost
        rw [← context.spans_opened moment] at found
        refine Decidable.byContradiction fun entered => ?_
        obtain ⟨rest, active⟩ := List.head?_eq_some_iff.mp innermost
        have top := OpenSegment.top?_eq_some.mpr ⟨rest, active, found⟩
        rw [OpenSegment.shared?_eq_some.mpr ⟨span, top, same, entered⟩] at shares
        cases shares
  | @leave _ opened index rest current active =>
    have left := sound.opened opened current
    refine growth_settle ?_ rfl (descents_leave current _ _) (finishing_leave left current active _)
    rintro _ ⟨⟩
    exact left.leave active
  | join pending correlation extension =>
    exact .kept rfl (descents_join pending correlation extension)
      (finishing_join pending correlation extension)
  | edit key _ _ _ descent =>
    exact .kept (length_past_modifySpan _) (descents_modifySpan key descent)
      (finishing_modifySpan _)
  | prepare key _ =>
    exact .kept (length_past_modifySpan _) (descents_modifySpan key fun _ => rfl)
      (finishing_modifySpan _)
  | finish key _ =>
    have marked : (context.modifySpan key (·.completedAt moment.now)).Sound :=
      sound.modifySpan key fun _ positive => positive
    exact growth_settle marked.opened (length_past_modifySpan _)
      (descents_modifySpan key fun _ => rfl) (finishing_modifySpan _)
  | expect => exact .kept rfl rfl rfl
  | complete => exact growth_settle sound.opened rfl rfl rfl

/-- Only creating a span adds a place. -/
theorem descents_perform {operation : Operation}
    (other : ∀ role name peer, operation ≠ .create role name peer) :
    (context.perform moment operation).context.descents = context.descents := by
  cases operation with
  | create role name peer => exact absurd rfl (other role name peer)
  | stop span =>
    unfold perform
    dsimp only
    cases stopped : context.stopSpan moment.now span with
    | error => rfl
    | ok after =>
      obtain ⟨opened, index, rest, current, _, _, rfl⟩ := stopSpan_eq_ok.mp stopped
      exact (descents_settle _).trans (descents_leave current _ _)
  | extract carrier =>
    change (context.extract moment carrier).descents = _
    unfold extract
    split
    · exact descents_join _ _ _
    · rfl
  | resume snapshot =>
    change (context.resume moment snapshot).descents = _
    unfold resume
    split
    · rfl
    · split
      · exact descents_join _ _ _
      · rfl
  | prepare key =>
    unfold perform
    dsimp only
    cases prepared : context.prepareAsync key with
    | error => rfl
    | ok after =>
      obtain ⟨_, rfl⟩ := prepareAsync_eq_ok.mp prepared
      exact descents_modifySpan key fun _ => rfl
  | finish key =>
    unfold perform
    dsimp only
    cases finished : context.finishAsync moment.now key with
    | error => rfl
    | ok after =>
      obtain ⟨_, rfl⟩ := finishAsync_eq_ok.mp finished
      exact (descents_settle _).trans (descents_modifySpan key fun _ => rfl)
  | annotate key remark =>
    exact descents_modifySpan key fun span => span.annotate_descent moment.now remark
  | applyFlags key extension =>
    exact descents_modifySpan key fun span => span.applyFlags_descent extension moment.now
  | asyncStop span =>
    cases span with
    | foreign => rfl
    | _ => exact descents_settle _
  | _ => rfl

/-- The places of the spans of a segment are never given up. -/
theorem descents_extend (sound : context.Sound) (operation : Operation) (segment : Nat) :
    context.descents segment <+: (context.perform moment operation).context.descents segment := by
  have growth := (context.perform_change moment operation).growth sound
  generalize (context.perform moment operation).context = after at growth
  generalize (context.perform moment operation).report = report at growth
  cases growth with
  | kept _ descents _ => simp only [descents, List.prefix_refl]
  | added role _ _ descents _ _ _ =>
    rw [descents]
    split
    · exact List.prefix_append _ _
    · exact List.prefix_refl _
  | reported _ _ descents _ _ => simp only [descents, List.prefix_refl]

theorem descents_run (sound : context.Sound) (steps : List Step) (segment : Nat) :
    context.descents segment <+: (context.run steps).descents segment := by
  induction steps generalizing context with
  | nil => exact List.prefix_refl _
  | cons step steps ih =>
    have after := sound.change (perform_change context step.1 step.2)
    exact (descents_extend sound step.2 segment).trans (ih after)

end Context

end TraceAgent.Native
