import TraceAgent.Native.Context
import TraceAgent.Proofs.General
import TraceAgent.Proofs.Native.OpenSegment

/-! What the operations of a native context do to its spans and to its open segment.

A span is looked up in the open segment or among those of the reported ones, and
reporting a segment moves its spans from the first place to the second. The open
segment of a context has a span only while something in it is waited for.
-/

set_option autoImplicit false

namespace TraceAgent.Native

open Segment Propagation

namespace Context

variable {context : Context} {moment : Moment} {now : Int} {key : SpanKey}
  {opened : OpenSegment} {index : Nat}

def spans (context : Context) : List Span := (context.current.map (·.spans)).getD []

def active (context : Context) : List Nat := (context.current.map (·.active)).getD []

/-- No span is active and no completion is outstanding. -/
def IsDone (context : Context) : Prop := context.active = [] ∧ context.outstanding = 0

/-- How a span of the context ends. -/
def completion? (context : Context) (key : SpanKey) : Option Completion :=
  (context.span? key).map Span.completion

theorem spans_of_current (current : context.current = some opened) :
    context.spans = opened.spans := by
  rw [spans, current]; rfl

theorem active_of_current (current : context.current = some opened) :
    context.active = opened.active := by
  rw [active, current]; rfl

@[simp] theorem spans_opened (context : Context) (moment : Moment) :
    (context.opened moment).spans = context.spans := by
  unfold opened spans
  cases context.current <;> rfl

@[simp] theorem active_opened (context : Context) (moment : Moment) :
    (context.opened moment).active = context.active := by
  unfold opened active
  cases context.current <;> rfl

theorem span?_eq (context : Context) (key : SpanKey) :
    context.span? key =
      if key.segment = context.past.length then context.spans[key.index]?
      else (context.past[key.segment]?).bind (·[key.index]?) := by
  unfold span? spans
  cases context.current with
  | none => simp
  | some opened => rfl

/-- Setting the open segment of a context changes the completions as it changes those of the
open spans. -/
theorem completion?_setCurrent (context other : Context) (past : other.past = context.past)
    (same : ∀ index : Nat, (other.spans[index]?).map Span.completion =
      (context.spans[index]?).map Span.completion) :
    other.completion? = context.completion? := by
  funext key
  simp only [completion?, span?_eq, past]
  split
  · exact same key.index
  · rfl

theorem current_modifySpan (change : Span → Span) :
    (context.modifySpan key change).current =
      if key.segment = context.past.length then
        context.current.map (·.modifySpan key.index change)
      else context.current := by
  unfold modifySpan; split <;> rfl

theorem spans_modifySpan (key : SpanKey) (change : Span → Span) :
    (context.modifySpan key change).spans =
      if key.segment = context.past.length then context.spans.modify key.index change
      else context.spans := by
  unfold spans
  rw [current_modifySpan]
  split
  · cases context.current <;> simp
  · rfl

theorem past_modifySpan (key : SpanKey) (change : Span → Span) :
    (context.modifySpan key change).past =
      if key.segment = context.past.length then context.past
      else context.past.modify key.segment (·.modify key.index change) := by
  unfold modifySpan; split <;> rfl

@[simp] theorem length_past_modifySpan (change : Span → Span) :
    (context.modifySpan key change).past.length = context.past.length := by
  unfold modifySpan
  split
  · rfl
  · exact List.length_modify _ _ _

theorem span?_modifySpan (context : Context) (key other : SpanKey) (change : Span → Span) :
    (context.modifySpan key change).span? other =
      if key = other then (context.span? other).map change else context.span? other := by
  rw [span?_eq, span?_eq, length_past_modifySpan, spans_modifySpan, past_modifySpan]
  obtain ⟨segment, index⟩ := key
  obtain ⟨otherSegment, otherIndex⟩ := other
  simp only [SpanKey.mk.injEq]
  -- The segment of each key is the open one, or one of the reported.
  by_cases here : otherSegment = context.past.length
  · rw [if_pos here, if_pos here]
    by_cases opens : segment = context.past.length
    · rw [if_pos opens, List.getElem?_modify]
      by_cases same : index = otherIndex <;> simp [opens, here, same]
    · rw [if_neg opens, if_neg fun same => opens (same.1.trans here)]
  · rw [if_neg here, if_neg here]
    by_cases opens : segment = context.past.length
    · rw [if_pos opens, if_neg fun same => here (same.1.symm.trans opens)]
    · rw [if_neg opens, List.getElem?_modify]
      by_cases same : segment = otherSegment
      · rw [same]
        cases context.past[otherSegment]? with
        | none => simp
        | some spans => by_cases equal : index = otherIndex <;> simp [equal]
      · simp [same]

theorem completion?_modifySpan (context : Context) (key other : SpanKey)
    (change : Span → Span) :
    (context.modifySpan key change).completion? other =
      if key = other then (context.span? other).map fun span => (change span).completion
      else context.completion? other := by
  unfold completion?
  rw [span?_modifySpan]
  split
  · rw [Option.map_map]; rfl
  · rfl

theorem completion?_edit (context : Context) (key : SpanKey) {change : Span → Span}
    (keeps : ∀ span, (change span).completion = span.completion) :
    (context.modifySpan key change).completion? = context.completion? := by
  funext other
  rw [completion?_modifySpan]
  split
  · simp only [keeps]; rfl
  · rfl

theorem completion?_begin (config : AgentConfig) (moment : Moment) (key : SpanKey) :
    (Context.begin config moment).completion? key = none := by
  unfold completion?
  rw [span?_eq]
  split <;> rfl

theorem completion?_mark {key : SpanKey} (change : Span → Span) {mark before : Completion}
    (marks : ∀ span, (change span).completion = mark)
    (present : context.completion? key = some before) (other : SpanKey) :
    (context.modifySpan key change).completion? other =
      if key = other then some mark else context.completion? other := by
  rw [completion?_modifySpan]
  split
  next same =>
    obtain ⟨span, found, _⟩ := Option.map_eq_some_iff.mp present
    rw [← same, found]
    exact congrArg some (marks span)
  next => rfl

@[simp] theorem outstanding_modifySpan (change : Span → Span) :
    (context.modifySpan key change).outstanding = context.outstanding := by
  unfold modifySpan; split <;> rfl

@[simp] theorem active_modifySpan (change : Span → Span) :
    (context.modifySpan key change).active = context.active := by
  unfold modifySpan active
  split
  · cases context.current <;> rfl
  · rfl

theorem settle_of_done (current : context.current = some opened) (done : context.IsDone) :
    context.settle =
      ({ context with current := none, past := context.past ++ [opened.spans] },
        some opened.close) := by
  unfold IsDone at done
  rw [active_of_current current] at done
  unfold settle
  rw [current]
  exact if_pos done

theorem settle_of_not_done (waits : ¬ context.IsDone) : context.settle = (context, none) := by
  unfold settle
  cases current : context.current with
  | none => rfl
  | some opened =>
    unfold IsDone at waits
    rw [active_of_current current] at waits
    exact if_neg waits

theorem settle_of_none (current : context.current = none) :
    context.settle = (context, none) := by
  unfold settle; rw [current]

theorem settle_of_quiet (quiet : context.settle.2 = none) : context.settle.1 = context := by
  unfold settle at quiet ⊢
  split
  · rfl
  · split
    next opened _ done => simp_all
    next => rfl

/-- A segment that is handed over was the open one, in which nothing was left to wait for. -/
theorem settle_eq_some {report : Segment} (handed : context.settle.2 = some report) :
    ∃ opened, context.current = some opened ∧ context.IsDone ∧ report = opened.close ∧
      context.settle.1 =
        { context with current := none, past := context.past ++ [opened.spans] } := by
  by_cases done : context.IsDone
  · cases current : context.current with
    | none =>
      rw [settle_of_none current] at handed
      cases handed
    | some opened =>
      rw [settle_of_done current done] at handed ⊢
      exact ⟨opened, rfl, done, (Option.some.inj handed).symm, rfl⟩
  · rw [settle_of_not_done done] at handed
    cases handed

@[simp] theorem span?_settle (context : Context) : context.settle.1.span? = context.span? := by
  funext key
  by_cases done : context.IsDone
  · cases current : context.current with
    | none => rw [settle_of_none current]
    | some opened =>
      -- The open segment becomes the last of the past, under the same number.
      rw [settle_of_done current done]
      simp only [span?_eq, spans, current]
      by_cases here : key.segment = context.past.length
      · simp [here]
      · rw [if_neg here, getElem?_concat, if_neg here]
        -- Past the last segment there are no spans to be found.
        split
        next beyond =>
          have none : context.past[key.segment]? = none := by
            refine List.getElem?_eq_none ?_
            rw [beyond, List.length_append]
            exact Nat.le_add_right _ _
          rw [none]
          rfl
        next => rfl
  · rw [settle_of_not_done done]

@[simp] theorem completion?_settle (context : Context) :
    context.settle.1.completion? = context.completion? := by
  funext key
  simp only [completion?, span?_settle]

@[simp] theorem outstanding_settle (context : Context) :
    context.settle.1.outstanding = context.outstanding := by
  unfold settle
  split
  · rfl
  · split <;> rfl

theorem leaveTop_of_active (context : Context)
    (busy : (opened.leave now index).active ≠ []) :
    context.leaveTop now opened index =
      { context := { context with current := some (opened.leave now index) }
        idle := false
        report := none } := by
  have waits : ¬ { context with current := some (opened.leave now index) }.IsDone :=
    fun done => busy done.1
  unfold leaveTop
  dsimp only
  rw [settle_of_not_done waits]
  simpa using busy

theorem stopSpan_eq_ok {span : SpanArgument} {stopped : Stopped} :
    context.stopSpan now span = .ok stopped ↔
      ∃ opened index rest, context.current = some opened ∧ opened.active = index :: rest ∧
        span = .own (context.keyOf index) ∧ stopped = context.leaveTop now opened index := by
  unfold stopSpan
  cases span with
  | foreign => simp
  | other spanId =>
    cases current : context.current with
    | none => simp
    | some opened => cases active : opened.active <;> simp [active]
  | own key =>
    cases current : context.current with
    | none => simp
    | some opened =>
      cases active : opened.active with
      | nil => simp [active]
      | cons index rest =>
        by_cases same : key = context.keyOf index
        · simp [active, same, eq_comm]
        · simp [active, same]

/-- The active span can always be stopped. -/
theorem stopSpan_active (now : Int) (active : context.activeSpan = .ok key) :
    ∃ stopped, context.stopSpan now (.own key) = .ok stopped := by
  unfold activeSpan at active
  split at active
  next index span top =>
    cases active
    obtain ⟨opened, current, here⟩ := Option.bind_eq_some_iff.mp top
    obtain ⟨rest, stack, _⟩ := OpenSegment.top?_eq_some.mp here
    exact ⟨_, stopSpan_eq_ok.mpr ⟨opened, index, rest, current, stack, rfl, rfl⟩⟩
  next => cases active

theorem prepareAsync_eq_ok {after : Context} :
    context.prepareAsync key = .ok after ↔
      context.completion? key = some .onStop ∧
        after = (context.modifySpan key (·.awaiting)).awaitCompletion := by
  unfold prepareAsync completion?
  cases context.span? key with
  | none => simp
  | some span =>
    cases completion : span.completion <;> simp [completion, eq_comm, Span.awaiting]

theorem finishAsync_eq_ok {after : Context × Option Segment} :
    context.finishAsync now key = .ok after ↔
      context.completion? key = some .awaited ∧
        after = (context.modifySpan key (·.completedAt now)).complete := by
  unfold finishAsync completion?
  cases context.span? key with
  | none => simp
  | some span =>
    cases completion : span.completion <;> simp [completion, eq_comm, Span.completedAt]

/-- A carrier is prepared for the active span, which has to be an exit span. -/
theorem inject_eq_ok {carrier prepared : Carrier}
    (injected : context.inject now carrier = .ok prepared) :
    ∃ opened index span, context.current = some opened ∧ opened.top? = some (index, span) ∧
      span.role = .exit ∧ prepared.bag = carrier.bag ∧
      prepared.origin = context.origin opened index span.peer := by
  unfold inject at injected
  cases current : context.current with
  | none => simp [current] at injected
  | some opened =>
    cases top : opened.top? with
    | none => simp [current, top] at injected
    | some found =>
      obtain ⟨index, span⟩ := found
      by_cases role : span.role = .exit
      -- Without a peer the call is refused, like one out of a span of another role.
      · by_cases peer : span.peer = ""
        · simp [current, top, role, peer] at injected
        · simp [current, top, role, peer] at injected
          exact ⟨opened, index, span, rfl, top, role, by rw [← injected], by rw [← injected]⟩
      · simp [current, top, role] at injected

/-- The open segment keeps its shape, and it has spans only while the context waits for
something. -/
structure Sound (context : Context) : Prop where
  opened : ∀ opened, context.current = some opened → opened.Sound
  waiting : context.spans ≠ [] → ¬ context.IsDone

theorem createSpan_of_shared {role : Role} (name peer : String)
    (shares : (context.opened moment).shared? role = some index) :
    context.createSpan moment role name peer =
      ({ context with current := some ((context.opened moment).reenter index role name) },
        context.keyOf index) := by
  unfold createSpan OpenSegment.enter
  rw [shares]

theorem createSpan_of_not_shared {role : Role} (name peer : String)
    (alone : (context.opened moment).shared? role = none) :
    context.createSpan moment role name peer =
      ({ context with
          current := some
            ((context.opened moment).push moment.now context.extension role name peer) },
        context.keyOf context.spans.length) := by
  unfold createSpan OpenSegment.enter
  rw [alone, spans_opened]

theorem active_createSpan (role : Role) (name peer : String) :
    (context.createSpan moment role name peer).1.active ≠ [] := by
  obtain ⟨rest, active⟩ := (context.opened moment).enter_active moment.now context.extension
    role name peer
  change ((context.opened moment).enter _ _ _ _ _).1.active ≠ []
  rw [active]
  exact List.cons_ne_nil _ _

@[simp] theorem active_join (pending : Pending) (correlation : Correlation)
    (extension : Extension) :
    (context.join moment pending correlation extension).active = context.active := by
  change ((context.opened moment).link _ _ _).active = context.active
  rw [OpenSegment.link_eq]
  split <;> exact context.active_opened moment

theorem length_spans_join (pending : Pending) (correlation : Correlation)
    (extension : Extension) :
    (context.join moment pending correlation extension).spans.length = context.spans.length := by
  change ((context.opened moment).link _ _ _).spans.length = context.spans.length
  rw [OpenSegment.link_eq]
  split
  · change ((context.opened moment).spans.modify _ _).length = _
    rw [List.length_modify, spans_opened]
  · exact congrArg List.length (context.spans_opened moment)

theorem completion_modify (spans : List Span) {change : Span → Span}
    (keeps : ∀ span, (change span).completion = span.completion) (index other : Nat) :
    ((spans.modify index change)[other]?).map Span.completion =
      (spans[other]?).map Span.completion := by
  rw [List.getElem?_modify]
  cases spans[other]? with
  | none => rfl
  | some span =>
    change some (Span.completion (if index = other then change span else span)) = _
    split
    · rw [keeps]; rfl
    · rfl

@[simp] theorem completion?_join (pending : Pending) (correlation : Correlation)
    (extension : Extension) :
    (context.join moment pending correlation extension).completion? = context.completion? := by
  refine completion?_setCurrent context _ rfl ?_
  intro index
  change (((context.opened moment).link _ _ _).spans[index]?).map _ = _
  rw [OpenSegment.link_eq, ← context.spans_opened moment]
  split
  next host _ =>
    exact completion_modify _ (fun span => span.continueFrom_completion _ _ _) host index
  next => rfl

theorem completion?_leave :
    { context with current := some (opened.leave now index) }.completion? =
      { context with current := some opened }.completion? := by
  refine completion?_setCurrent { context with current := some opened } _ rfl ?_
  intro other
  change ((opened.leave now index).spans[other]?).map _ = (opened.spans[other]?).map _
  rw [OpenSegment.spans_leave]
  exact completion_modify _ (fun span => span.leave_completion now) index other

theorem completion?_createSpan (moment : Moment) (role : Role) (name peer : String) :
    (context.createSpan moment role name peer).1.completion? =
      match (context.opened moment).shared? role with
      | some _ => context.completion?
      | none => fun key =>
          if key = context.keyOf context.spans.length then some .onStop
          else context.completion? key := by
  unfold createSpan OpenSegment.enter
  cases (context.opened moment).shared? role with
  | some index =>
    refine completion?_setCurrent context _ rfl ?_
    intro other
    change (((context.opened moment).spans.modify index fun span =>
      if role = .entry then span.reenterAs name else span.reenter)[other]?).map _ = _
    rw [spans_opened]
    refine completion_modify context.spans ?_ index other
    intro span
    split <;> rfl
  | none =>
    funext key
    obtain ⟨segment, number⟩ := key
    have fresh := (context.opened moment).newSpan_completion moment.now context.extension
      role name peer
    simp only [completion?, span?_eq, keyOf, SpanKey.mk.injEq]
    change Option.map _ (if _ then ((context.opened moment).spans ++ [_])[number]? else _) = _
    rw [spans_opened]
    by_cases here : segment = context.past.length
    · rw [if_pos here, if_pos here]
      rw [getElem?_concat]
      by_cases last : number = context.spans.length
      · rw [if_pos last, if_pos ⟨here, last⟩]
        exact congrArg some fresh
      · rw [if_neg last, if_neg fun same => last same.2]
    · rw [if_neg here, if_neg here, if_neg fun same => here same.1]

namespace Sound

variable (sound : context.Sound)
include sound

theorem opened_moment (moment : Moment) : (context.opened moment).Sound := by
  unfold Context.opened
  cases current : context.current with
  | none => exact .begin moment
  | some opened => exact sound.opened opened current

omit sound in
/-- Whatever is left to wait for after a segment may have been reported, is waited for. -/
theorem settle (shape : ∀ opened, context.current = some opened → opened.Sound) :
    context.settle.1.Sound := by
  by_cases done : context.IsDone
  · cases current : context.current with
    | none =>
      rw [settle_of_none current]
      refine ⟨shape, fun nonempty => absurd ?_ nonempty⟩
      rw [spans, current]; rfl
    | some opened =>
      rw [settle_of_done current done]
      exact ⟨fun _ => (nomatch ·), fun nonempty => absurd rfl nonempty⟩
  · rw [settle_of_not_done done]
    exact ⟨shape, fun _ => done⟩

theorem createSpan (moment : Moment) (role : Role) (name peer : String) :
    (context.createSpan moment role name peer).1.Sound where
  opened := by
    rintro _ ⟨⟩
    exact (sound.opened_moment moment).enter _ _ _ _ _
  waiting := fun _ done => active_createSpan role name peer done.1

theorem join (moment : Moment) (pending : Pending) (correlation : Correlation) (extension : Extension) :
    (context.join moment pending correlation extension).Sound where
  opened := by
    rintro _ ⟨⟩
    exact (sound.opened_moment moment).link
  waiting := by
    intro nonempty done
    refine sound.waiting ?_ ⟨active_join pending correlation extension ▸ done.1, done.2⟩
    rw [← List.length_pos_iff] at nonempty ⊢
    rwa [length_spans_join] at nonempty

theorem leaveTop {rest : List Nat} (current : context.current = some opened)
    (active : opened.active = index :: rest) :
    (context.leaveTop now opened index).context.Sound := by
  refine settle ?_
  rintro _ ⟨⟩
  exact (sound.opened opened current).leave active

theorem modifySpan (key : SpanKey) {change : Span → Span}
    (keeps : ∀ span, 0 < span.depth → 0 < (change span).depth) :
    (context.modifySpan key change).Sound where
  opened := by
    intro changed current
    rw [current_modifySpan] at current
    split at current
    · obtain ⟨opened, before, rfl⟩ := Option.map_eq_some_iff.mp current
      exact (sound.opened opened before).modifySpan keeps
    · exact sound.opened changed current
  waiting := by
    intro nonempty done
    refine sound.waiting ?_ ⟨?_, ?_⟩
    · intro empty
      apply nonempty
      unfold spans at empty ⊢
      rw [current_modifySpan]
      split
      · cases current : context.current with
        | none => rfl
        | some opened =>
          rw [current] at empty
          exact List.modify_eq_nil_iff.mpr empty
      · exact empty
    · simpa using done.1
    · simpa using done.2

theorem awaitCompletion : context.awaitCompletion.Sound :=
  ⟨sound.opened, fun _ done => Nat.succ_ne_zero _ done.2⟩

theorem complete : context.complete.1.Sound := settle sound.opened

/-- The active span is the innermost one, which can always be looked up. -/
theorem activeSpan_eq_ok :
    context.activeSpan = .ok key ↔
      ∃ index rest, context.active = index :: rest ∧ key = context.keyOf index := by
  unfold activeSpan top? active
  cases current : context.current with
  | none => simp
  | some opened =>
    simp only [Option.bind_some, Option.map_some, Option.getD_some]
    cases active : opened.active with
    | nil =>
      have idle : opened.top? = none := by
        unfold OpenSegment.top?
        rw [active]
      simp [idle]
    | cons index rest =>
      obtain ⟨span, top, _⟩ := (sound.opened opened current).top? active
      simp [top, eq_comm]

/-- A span that is created is active, and stopping it gives way to the span from before. -/
theorem stopSpan_createSpan (moment : Moment) (role : Role) (name peer : String) (now : Int)
    (busy : context.activeSpan = .ok key) :
    (context.createSpan moment role name peer).1.activeSpan =
        .ok (context.createSpan moment role name peer).2 ∧
      ∃ stopped, (context.createSpan moment role name peer).1.stopSpan now
          (.own (context.createSpan moment role name peer).2) = .ok stopped ∧
        stopped.idle = false ∧ stopped.context.activeSpan = .ok key := by
  obtain ⟨index, rest, active, rfl⟩ := sound.activeSpan_eq_ok.mp busy
  have created := sound.createSpan moment role name peer
  have back := (sound.opened_moment moment).active_leave_enter moment.now now context.extension
    role name peer
  obtain ⟨others, entered⟩ := (context.opened moment).enter_active moment.now context.extension
    role name peer
  rw [active_opened, active] at back
  have stays := leaveTop_of_active (context.createSpan moment role name peer).1
    (back ▸ List.cons_ne_nil index rest)
  refine ⟨created.activeSpan_eq_ok.mpr ⟨_, others, entered, rfl⟩, _,
    stopSpan_eq_ok.mpr ⟨_, _, others, rfl, entered, rfl, rfl⟩, ?_, ?_⟩
  · rw [stays]
  · refine (created.leaveTop rfl entered).activeSpan_eq_ok.mpr ⟨index, rest, ?_, ?_⟩
    · rw [stays]
      exact back
    · rw [stays]
      rfl

end Sound

theorem Sound.begin (config : AgentConfig) (moment : Moment) :
    (Context.begin config moment).Sound where
  opened := by
    rintro _ ⟨⟩
    exact .begin moment
  waiting := fun nonempty => absurd rfl nonempty

end Context

end TraceAgent.Native
