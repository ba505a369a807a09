import TraceAgent.Proofs.Native.ParentLinks

/-! What becomes of a received call once an entry span is created.

The entry span lists the caller as a parent, and what a span lists it keeps
until its segment is reported.
-/

set_option autoImplicit false

namespace TraceAgent.Native

open Segment Propagation

def Grows (before after : List Span) : Prop :=
  ∀ (index : Nat) (span : Span), before[index]? = some span →
    ∃ kept, after[index]? = some kept ∧ span.parents <+: kept.parents

namespace Grows

theorem refl (spans : List Span) : Grows spans spans :=
  fun _ span lookup => ⟨span, lookup, List.prefix_refl _⟩

theorem trans {first second third : List Span} (earlier : Grows first second)
    (later : Grows second third) : Grows first third := by
  intro index span lookup
  obtain ⟨middle, found, parents⟩ := earlier index span lookup
  obtain ⟨kept, foundLater, more⟩ := later index middle found
  exact ⟨kept, foundLater, parents.trans more⟩

theorem modify {spans : List Span} {change : Span → Span}
    (parents : ∀ span, span.parents <+: (change span).parents) (place : Nat) :
    Grows spans (spans.modify place change) := by
  intro index span lookup
  rw [List.getElem?_modify, lookup]
  by_cases same : place = index
  · exact ⟨change span, by simp [same], parents span⟩
  · exact ⟨span, by simp [same], List.prefix_refl _⟩

theorem append (spans more : List Span) : Grows spans (spans ++ more) := by
  intro index span lookup
  obtain ⟨bound, _⟩ := List.getElem?_eq_some_iff.mp lookup
  exact ⟨span, (List.getElem?_append_left bound).trans lookup, List.prefix_refl _⟩

end Grows

namespace OpenSegment

variable {opened : OpenSegment} {now later : Int} {extension handed : Extension} {parent : Parent}
  {name peer : String}

theorem shared?_link (opened : OpenSegment) (now : Int) (extension : Extension)
    (parent : Parent) :
    (opened.link now extension ⟨parent, true⟩).shared? .entry = opened.host? ⟨parent, true⟩ := by
  rw [link_eq]
  cases host : opened.host? ⟨parent, true⟩ with
  | some index =>
    obtain ⟨span, top, suits⟩ := host?_eq_some.mp host
    obtain ⟨rest, active, lookup⟩ := top?_eq_some.mp top
    have continued : (opened.spans.modify index (·.continueFrom parent extension now))[index]? =
        some (span.continueFrom parent extension now) := by
      rw [List.getElem?_modify_eq, lookup]
      rfl
    exact shared?_eq_some.mpr ⟨span.continueFrom parent extension now,
      top?_eq_some.mpr ⟨rest, active, continued⟩,
      (span.continueFrom_role parent extension now).trans (eq_of_beq suits), by decide⟩
  | none =>
    rw [Option.eq_none_iff_forall_ne_some]
    intro index shares
    obtain ⟨span, top, role, _⟩ := shared?_eq_some.mp shares
    have suits : Pending.suits ⟨parent, true⟩ span.role := by rw [role]; rfl
    have found : opened.host? ⟨parent, true⟩ = some index := host?_eq_some.mpr ⟨span, top, suits⟩
    rw [found] at host
    cases host

/-- The span that is entered behind a received parent: the active entry span, which continued the
parent and is entered again, or a new span, which continues it as it is created. -/
inductive EntersBehind (opened : OpenSegment) (now later : Int) (extension handed : Extension)
    (parent : Parent) (name peer : String) (entered : OpenSegment × Nat) : Prop where
  | again (span : Span) (host : opened.host? ⟨parent, true⟩ = some entered.2)
      (lookup : opened.spans[entered.2]? = some span) (role : span.role = .entry)
      (stored : entered.1.spans[entered.2]? =
        some ((span.continueFrom parent extension now).reenterAs name))
  | anew (host : opened.host? ⟨parent, true⟩ = none) (number : entered.2 = opened.spans.length)
      (stored : entered.1.spans[entered.2]? =
        some (Span.continueFrom
          { role := .entry, parent := opened.active.head?, name, peer, start := later }
          parent handed later))

theorem entersBehind (opened : OpenSegment) (now later : Int) (extension handed : Extension)
    (parent : Parent) (name peer : String) :
    EntersBehind opened now later extension handed parent name peer
      ((opened.link now extension ⟨parent, true⟩).enter later handed .entry name peer) := by
  unfold enter
  rw [shared?_link opened now extension parent, link_eq]
  cases host : opened.host? ⟨parent, true⟩ with
  | some index =>
    obtain ⟨span, top, suits⟩ := host?_eq_some.mp host
    obtain ⟨rest, _, lookup⟩ := top?_eq_some.mp top
    refine .again span host lookup (eq_of_beq suits) ?_
    change (List.modify (List.modify _ _ _) index _)[index]? = _
    rw [List.getElem?_modify_eq, List.getElem?_modify_eq, lookup]
    rfl
  | none => exact .anew host rfl List.getElem?_concat_length

end OpenSegment

namespace Context

variable {context : Context} {moment : Moment}

theorem grows_createSpan (role : Role) (name peer : String) :
    Grows context.spans (context.createSpan moment role name peer).1.spans := by
  rw [← context.spans_opened moment]
  cases shares : (context.opened moment).shared? role with
  | some index =>
    rw [createSpan_of_shared name peer shares]
    refine Grows.modify (fun span => ?_) index
    split <;> exact List.prefix_refl _
  | none =>
    rw [createSpan_of_not_shared name peer shares]
    exact Grows.append _ _

theorem grows_join (pending : Pending) (correlation : Correlation) (extension : Extension) :
    Grows context.spans (context.join moment pending correlation extension).spans := by
  rw [← context.spans_opened moment]
  change Grows _ ((context.opened moment).link moment.now extension pending).spans
  rw [OpenSegment.link_eq]
  split
  next host _ =>
    refine Grows.modify (fun span => ?_) host
    rw [Span.continueFrom_parents]
    exact Parent.prefix_addTo span.parents pending.parent
  next => exact Grows.refl _

theorem grows_modifySpan (key : SpanKey) {change : Span → Span}
    (parents : ∀ span, span.parents <+: (change span).parents) :
    Grows context.spans (context.modifySpan key change).spans := by
  rw [spans_modifySpan]
  split
  · exact Grows.modify parents key.index
  · exact Grows.refl _

theorem grows_leave {opened : OpenSegment} (current : context.current = some opened)
    (now : Int) (index : Nat) :
    Grows context.spans { context with current := some (opened.leave now index) }.spans := by
  rw [spans_of_current current]
  change Grows opened.spans (opened.leave now index).spans
  rw [OpenSegment.spans_leave]
  refine Grows.modify (fun span => ?_) index
  simp only [Span.leave_parents, List.prefix_refl]

/-- A step that hands nothing over keeps the spans of the open segment. -/
theorem Change.grows {paired : Bool} {after : Context} {report : Option Segment}
    (change : Change context moment paired after report) (quiet : report = none) :
    Grows context.spans after.spans := by
  cases change with
  | stay => exact Grows.refl _
  | create role name peer => exact grows_createSpan role name peer
  | leave current active =>
    change Grows _ (settle _).1.spans
    rw [settle_of_quiet quiet]
    exact grows_leave current _ _
  | join pending correlation extension => exact grows_join pending correlation extension
  | edit key depth completion parents _ => exact grows_modifySpan key parents
  | prepare key ready => exact grows_modifySpan key fun _ => List.prefix_refl _
  | finish key awaited =>
    unfold Context.complete at quiet ⊢
    rw [settle_of_quiet quiet]
    exact grows_modifySpan key fun _ => List.prefix_refl _
  | expect => exact Grows.refl _
  | complete =>
    unfold Context.complete at quiet ⊢
    rw [settle_of_quiet quiet]
    exact Grows.refl _

/-- The report of a segment shows each of its spans with all its parents. -/
def Shows (report : Segment) (spans : List Span) : Prop :=
  ∀ (index : Nat) (span : Span), spans[index]? = some span →
    ∃ record ∈ report.spans, record.id = index ∧ span.parents <+: record.parents

theorem Shows.of_grows {report : Segment} {before after : List Span} (later : Shows report after)
    (grows : Grows before after) : Shows report before := by
  intro index span lookup
  obtain ⟨kept, found, parents⟩ := grows index span lookup
  obtain ⟨record, member, id, more⟩ := later index kept found
  exact ⟨record, member, id, parents.trans more⟩

theorem shows_settle (context : Context)
    (shape : ∀ opened, context.current = some opened → opened.Sound)
    {report : Segment} (handed : context.settle.2 = some report) :
    Shows report context.spans := by
  obtain ⟨opened, current, done, rfl, _⟩ := settle_eq_some handed
  rw [spans_of_current current]
  intro index span lookup
  have idle : opened.active = [] := by rw [← active_of_current current]; exact done.1
  exact ⟨_, (shape opened current).mem_close idle lookup, rfl, List.prefix_refl _⟩

theorem shows_complete (shape : ∀ opened, context.current = some opened → opened.Sound)
    {report : Segment} (handed : context.complete.2 = some report) :
    Shows report context.spans :=
  shows_settle { context with outstanding := context.outstanding - 1 } shape handed

theorem Change.shows {paired : Bool} {after : Context} {report : Segment}
    {handed : Option Segment} (change : Change context moment paired after handed)
    (sound : context.Sound) (found : handed = some report) : Shows report context.spans := by
  cases change with
  | @leave _ opened index rest current active =>
    refine (shows_settle _ ?_ found).of_grows (grows_leave current _ _)
    rintro _ ⟨⟩
    exact (sound.opened opened current).leave active
  | finish key awaited =>
    have marked : (context.modifySpan key (·.completedAt moment.now)).Sound :=
      sound.modifySpan key fun _ positive => positive
    exact (shows_complete marked.opened found).of_grows
      (grows_modifySpan key fun _ => List.prefix_refl _)
  | complete => exact shows_complete sound.opened found
  | _ => cases found

def parentsOf (context : Context) (key : SpanKey) : List Parent :=
  ((context.span? key).map (·.parents)).getD []

theorem extract_of_valid {carrier : Carrier} (valid : carrier.isValid) :
    context.extract moment carrier =
      context.join moment ⟨.ofCarrier carrier, true⟩ carrier.correlation carrier.extension :=
  if_pos valid

end Context

end TraceAgent.Native
