import TraceAgent.Proofs.Native.Accounting

/-! When the spans of a reported segment start and end.

A span starts when it is created, under a span that started before, and keeps
its start. It ends when its last entrance is left, or when the work ends that
outlives its stop. In between it has no end that means anything. So a report
shows a span with a duration that is not negative only because the count of
completions holds the report back until the last end is recorded.
-/

set_option autoImplicit false

namespace TraceAgent

open Segment

/-- No span of the segment ends before it starts, or starts before the segment or its parent. -/
structure Segment.Lasting (report : Segment) : Prop where
  durations : ∀ span ∈ report.spans, span.start ≤ span.finish
  within : ∀ span ∈ report.spans, report.created ≤ span.start
  parents : ∀ span ∈ report.spans, span.parentId = -1 ∨
    ∃ parent ∈ report.spans, span.parentId = parent.id
  nested : ∀ span ∈ report.spans, ∀ parent ∈ report.spans, span.parentId = parent.id →
    parent.start ≤ span.start

namespace Native

/-- The start of a span is left as it is, and a completion is counted only for a span that
completes. -/
def Operation.keepsTime : Operation → Bool
  | annotate _ .startNow | annotate _ (.startAt _) | asyncStop _ => false
  | _ => true

/-- What matters of a span for its times. -/
structure Course where
  parent : Option Nat
  start : Int
  finish : Int
  depth : Nat
  completion : Completion
  deriving DecidableEq, Repr

namespace Course

def IsEnded (course : Course) : Prop :=
  course.completion = .completed ∨ course.depth = 0 ∧ course.completion = .onStop

structure IsTimely (created now : Int) (course : Course) : Prop where
  within : created ≤ course.start
  started : course.start ≤ now
  ended : course.IsEnded → course.start ≤ course.finish

theorem IsTimely.mono {created now later : Int} {course : Course}
    (timely : course.IsTimely created now) (passes : now ≤ later) :
    course.IsTimely created later :=
  ⟨timely.within, Int.le_trans timely.started passes, timely.ended⟩

end Course

namespace Span

def course (span : Span) : Course :=
  ⟨span.parent, span.start, span.finish, span.depth, span.completion⟩

@[simp] theorem applyFlags_course (span : Span) (extension : Propagation.Extension) (now : Int) :
    (span.applyFlags extension now).course = span.course := by
  obtain ⟨_, _, same⟩ := span.applyFlags_frame extension now
  rw [same]
  rfl

@[simp] theorem continueFrom_course (span : Span) (parent : Parent)
    (extension : Propagation.Extension) (now : Int) :
    (span.continueFrom parent extension now).course = span.course :=
  applyFlags_course _ extension now

theorem annotate_course (span : Span) (now : Int) {key : SpanKey} {remark : Remark}
    (keeps : (Operation.annotate key remark).keepsTime) :
    (span.annotate now remark).course = span.course := by
  cases remark with
  | startNow => cases keeps
  | startAt time => cases keeps
  | _ => rfl

end Span

structure Retimes (now : Int) (change : Span → Span) : Prop where
  start : ∀ span, (change span).start = span.start
  parent : ∀ span, (change span).parent = span.parent
  ended : ∀ span, span.start ≤ now → (span.course.IsEnded → span.start ≤ span.finish) →
    (change span).course.IsEnded → span.start ≤ (change span).finish

namespace Retimes

variable {now : Int} {change : Span → Span}

theorem of_course (same : ∀ span, (change span).course = span.course) : Retimes now change where
  start := fun span => congrArg Course.start (same span)
  parent := fun span => congrArg Course.parent (same span)
  ended := by
    intro span _ before
    rw [same span, show (change span).finish = span.finish from congrArg Course.finish (same span)]
    exact before

theorem reenter {role : Role} {name : String} :
    Retimes now fun span => if role = .entry then span.reenterAs name else span.reenter where
  start := fun _ => by split <;> rfl
  parent := fun _ => by split <;> rfl
  ended := by
    intro span _ before ended
    -- A span that has just been entered can only have ended by its completion.
    have completed : span.completion = .completed := by
      rcases ended with completed | ⟨left, _⟩
      · split at completed <;> exact completed
      · split at left <;> cases left
    have kept := before (.inl completed)
    split <;> exact kept

theorem leave : Retimes now (·.leave now) where
  start := fun span => by unfold Span.leave; split <;> rfl
  parent := fun span => congrArg Descent.parent (span.leave_descent now)
  ended := by
    intro span started before ended
    have completion := span.leave_completion now
    unfold Course.IsEnded Span.course at ended
    rw [completion] at ended
    unfold Span.leave at ended ⊢
    by_cases deeper : 1 < span.depth
    · rw [if_pos deeper] at ended ⊢
      rcases ended with completed | ⟨left, _⟩
      · exact before (.inl completed)
      · dsimp only at left
        omega
    · rw [if_neg deeper] at ended ⊢
      dsimp only
      split
      next => exact started
      next late =>
        rcases ended with completed | ⟨_, stops⟩
        · exact before (.inl completed)
        · exact absurd stops late

theorem awaiting : Retimes now (·.awaiting) where
  start := fun _ => rfl
  parent := fun _ => rfl
  ended := by
    rintro span _ _ (completed | ⟨_, stops⟩)
    · cases completed
    · cases stops

theorem completedAt : Retimes now (·.completedAt now) where
  start := fun _ => rfl
  parent := fun _ => rfl
  ended := fun _ started _ _ => started

end Retimes

namespace OpenSegment

variable {opened : OpenSegment} {now : Int} {index : Nat} {change : Span → Span}

/-- The spans of an open segment as they may be at a time: each under one that started before, and
left where it is not active. -/
structure IsTimely (now : Int) (opened : OpenSegment) : Prop where
  begun : opened.segment.created ≤ now
  spans : ∀ (index : Nat) (span : Span), opened.spans[index]? = some span →
    span.course.IsTimely opened.segment.created now
  nested : ∀ (index : Nat) (span : Span) (parent : Nat), opened.spans[index]? = some span →
    span.parent = some parent →
      ∃ above, opened.spans[parent]? = some above ∧ above.start ≤ span.start
  left : ∀ (index : Nat) (span : Span), opened.spans[index]? = some span →
    index ∉ opened.active → span.depth = 0

theorem newSpan_course (opened : OpenSegment) (now : Int) (extension : Propagation.Extension)
    (role : Role) (name peer : String) :
    (opened.newSpan now extension role name peer).course =
      ⟨opened.active.head?, now, 0, 1, .onStop⟩ := by
  unfold newSpan
  cases opened.taken? role with
  | none => rfl
  | some pending => exact Span.continueFrom_course _ _ _ _

theorem created_link (segment : Segment) (parent : Parent) :
    (segment.link parent).created = segment.created := by
  unfold Segment.link Segment.joinTrace
  split <;> rfl

namespace IsTimely

theorem begin (moment : Moment) : (OpenSegment.begin moment).IsTimely moment.now where
  begun := Int.le_refl _
  spans := fun _ _ found => (nomatch found)
  nested := fun _ _ _ found => (nomatch found)
  left := fun _ _ found => (nomatch found)

theorem mono {later : Int} (timely : opened.IsTimely now) (passes : now ≤ later) :
    opened.IsTimely later where
  begun := Int.le_trans timely.begun passes
  spans := fun index span found => (timely.spans index span found).mono passes
  nested := timely.nested
  left := timely.left

theorem modifySpan (timely : opened.IsTimely now) (retimes : Retimes now change)
    (left : index ∉ opened.active → ∀ span, span.depth = 0 → (change span).depth = 0) :
    (opened.modifySpan index change).IsTimely now := by
  have lookup : ∀ (place : Nat) (span : Span),
      (opened.modifySpan index change).spans[place]? = some span →
      ∃ before, opened.spans[place]? = some before ∧
        span = if index = place then change before else before := by
    intro place span found
    rw [spans_modifySpan, List.getElem?_modify] at found
    obtain ⟨before, here, rfl⟩ := Option.map_eq_some_iff.mp found
    exact ⟨before, here, rfl⟩
  constructor
  · exact timely.begun
  · intro place span found
    obtain ⟨before, here, rfl⟩ := lookup place span found
    have was := timely.spans place before here
    split
    · have start := retimes.start before
      refine ⟨?_, ?_, fun ended => ?_⟩
      · exact Int.le_trans was.within (Int.le_of_eq start.symm)
      · exact Int.le_trans (Int.le_of_eq start) was.started
      · have ends := retimes.ended before was.started was.ended ended
        exact Int.le_trans (Int.le_of_eq start) ends
    · exact was
  · intro place span parent found under
    obtain ⟨before, here, rfl⟩ := lookup place span found
    have start : ∀ place (span : Span),
        (if index = place then change span else span).start = span.start := by
      intro place span
      split
      · exact retimes.start span
      · rfl
    have same : before.parent = some parent := by
      rw [← under]
      split
      · exact (retimes.parent before).symm
      · rfl
    obtain ⟨above, stands, older⟩ := timely.nested place before parent here same
    refine ⟨if index = parent then change above else above, ?_, ?_⟩
    · rw [spans_modifySpan, List.getElem?_modify, stands]
      rfl
    · rw [start, start]
      exact older
  · intro place span found idle
    obtain ⟨before, here, rfl⟩ := lookup place span found
    have was := timely.left place before here idle
    split
    next same => exact left (same ▸ idle) before was
    next => exact was

theorem push (timely : opened.IsTimely now) (sound : opened.Sound)
    (extension : Propagation.Extension) (role : Role) (name peer : String) :
    (opened.push now extension role name peer).IsTimely now := by
  have course := opened.newSpan_course now extension role name peer
  generalize fresh : opened.newSpan now extension role name peer = span at course
  have parent : span.parent = opened.active.head? := congrArg Course.parent course
  have start : span.start = now := congrArg Course.start course
  have spans : (opened.push now extension role name peer).spans = opened.spans ++ [span] :=
    congrArg (opened.spans ++ [·]) fresh
  constructor
  · exact timely.begun
  · intro place other found
    rw [spans, getElem?_concat] at found
    split at found
    · cases found
      rw [course]
      refine ⟨timely.begun, Int.le_refl _, ?_⟩
      rintro (completed | ⟨left, _⟩)
      · cases completed
      · cases left
    · exact timely.spans place other found
  · intro place other above found under
    rw [spans, getElem?_concat] at found
    rw [spans]
    split at found
    next =>
      cases found
      -- The span that is active now has started before.
      rw [parent] at under
      obtain ⟨top, stands, _⟩ := sound.entered above (List.mem_of_mem_head? under)
      obtain ⟨bound, _⟩ := List.getElem?_eq_some_iff.mp stands
      refine ⟨top, (List.getElem?_append_left bound).trans stands, ?_⟩
      rw [start]
      exact (timely.spans above top stands).started
    next =>
      obtain ⟨top, stands, older⟩ := timely.nested place other above found under
      obtain ⟨bound, _⟩ := List.getElem?_eq_some_iff.mp stands
      exact ⟨top, (List.getElem?_append_left bound).trans stands, older⟩
  · intro place other found idle
    rw [spans, getElem?_concat] at found
    split at found
    next last => exact absurd (last ▸ List.mem_cons_self) idle
    next => exact timely.left place other found fun active => idle (List.mem_cons_of_mem _ active)

theorem enter (timely : opened.IsTimely now) (sound : opened.Sound)
    (extension : Propagation.Extension) (role : Role) (name peer : String) :
    (opened.enter now extension role name peer).1.IsTimely now := by
  unfold OpenSegment.enter
  cases shares : opened.shared? role with
  | none => exact timely.push sound extension role name peer
  | some index =>
    obtain ⟨span, top, _⟩ := shared?_eq_some.mp shares
    obtain ⟨rest, active, _⟩ := top?_eq_some.mp top
    -- The span that is shared is active, so that it may be entered once more.
    exact timely.modifySpan .reenter fun idle => absurd (active ▸ List.mem_cons_self) idle

theorem link (timely : opened.IsTimely now) (extension : Propagation.Extension)
    (pending : Pending) : (opened.link now extension pending).IsTimely now := by
  have framed : ∀ other : OpenSegment, other.IsTimely now → ∀ next : OpenSegment,
      next.segment.created = other.segment.created → next.spans = other.spans →
      next.active = other.active → next.IsTimely now := by
    intro other was next created spans active
    exact ⟨created ▸ was.begun, created ▸ spans ▸ was.spans, spans ▸ was.nested,
      spans ▸ active ▸ was.left⟩
  rw [link_eq]
  split
  next host _ =>
    have continued : (opened.modifySpan host
        (·.continueFrom pending.parent extension now)).IsTimely now :=
      timely.modifySpan
        (.of_course fun span => span.continueFrom_course pending.parent extension now)
        fun _ span left => (span.continueFrom_depth pending.parent extension now).trans left
    exact framed _ continued _ (created_link _ _) rfl rfl
  next => exact framed opened timely _ (created_link _ _) rfl rfl

theorem leave (timely : opened.IsTimely now) {rest : List Nat} {span : Span}
    (active : opened.active = index :: rest) (lookup : opened.spans[index]? = some span) :
    (opened.leave now index).IsTimely now := by
  have changed : (opened.modifySpan index (·.leave now)).IsTimely now :=
    timely.modifySpan .leave fun idle => absurd (active ▸ List.mem_cons_self) idle
  rw [leave_eq active lookup]
  split
  next => exact changed
  next last =>
    refine ⟨changed.begun, changed.spans, changed.nested, fun place other found idle => ?_⟩
    by_cases same : index = place
    · change (opened.spans.modify index _)[place]? = some other at found
      rw [← same, List.getElem?_modify_eq, lookup] at found
      cases found
      exact congrArg Span.depth (if_neg last)
    · refine changed.left place other found fun member => ?_
      change place ∈ opened.active at member
      rw [active] at member
      exact idle ((List.mem_cons.mp member).resolve_left (Ne.symm same))

end IsTimely

theorem mem_close {record : SpanRecord} :
    record ∈ opened.close.spans ↔
      ∃ index ∈ opened.finished, ∃ span, opened.spans[index]? = some span ∧
        span.record index = record := by
  change record ∈ opened.finished.filterMap _ ↔ _
  simp only [List.mem_filterMap, Option.map_eq_some_iff]

/-- A segment in which every span was left and none is awaited is reported with all ends. -/
theorem IsTimely.lasting (timely : opened.IsTimely now) (sound : opened.Sound)
    (idle : opened.active = [])
    (settled : ∀ (index : Nat) (span : Span), opened.spans[index]? = some span →
      span.completion ≠ .awaited) : opened.close.Lasting := by
  constructor
  · intro record member
    obtain ⟨index, _, span, found, rfl⟩ := mem_close.mp member
    refine (timely.spans index span found).ended ?_
    have left := timely.left index span found (by rw [idle]; exact List.not_mem_nil)
    cases completion : span.completion with
    | onStop => exact .inr ⟨left, completion⟩
    | awaited => exact absurd completion (settled index span found)
    | completed => exact .inl completion
  · intro record member
    obtain ⟨index, _, span, found, rfl⟩ := mem_close.mp member
    exact (timely.spans index span found).within
  · intro record member
    obtain ⟨index, _, span, found, rfl⟩ := mem_close.mp member
    cases under : span.parent with
    | none =>
      left
      change span.parentId = -1
      unfold Span.parentId
      rw [under]
    | some parent =>
      right
      obtain ⟨above, stands, _⟩ := timely.nested index span parent found under
      refine ⟨_, sound.mem_close idle stands, ?_⟩
      change span.parentId = parent
      unfold Span.parentId
      rw [under]
  · intro record member other listed same
    obtain ⟨index, _, span, found, rfl⟩ := mem_close.mp member
    obtain ⟨place, _, parent, here, rfl⟩ := mem_close.mp listed
    change span.parentId = place at same
    unfold Span.parentId at same
    split at same
    next number under =>
      obtain ⟨above, stands, older⟩ := timely.nested index span number found under
      rw [Int.ofNat.inj same, here] at stands
      cases stands
      exact older
    next => omega

end OpenSegment

namespace Context

variable {context : Context} {moment : Moment} {now : Int}

def IsTimely (context : Context) (now : Int) : Prop :=
  ∀ opened, context.current = some opened → opened.IsTimely now

namespace IsTimely

theorem begin (config : AgentConfig) (moment : Moment) :
    (Context.begin config moment).IsTimely moment.now := by
  rintro _ ⟨⟩
  exact .begin moment

theorem opened (timely : context.IsTimely moment.now) :
    (context.opened moment).IsTimely moment.now := by
  unfold Context.opened
  cases current : context.current with
  | none => exact .begin moment
  | some opened => exact timely opened current

theorem modifySpan (timely : context.IsTimely now) (key : SpanKey) {change : Span → Span}
    (retimes : Retimes now change) (depth : ∀ span, (change span).depth = span.depth) :
    (context.modifySpan key change).IsTimely now := by
  intro opened current
  rw [current_modifySpan] at current
  split at current
  · obtain ⟨before, here, rfl⟩ := Option.map_eq_some_iff.mp current
    exact (timely before here).modifySpan retimes fun _ span left => (depth span).trans left
  · exact timely opened current

theorem edit (timely : context.IsTimely now) (key : SpanKey) {change : Span → Span}
    (same : ∀ span, (change span).course = span.course) :
    (context.modifySpan key change).IsTimely now :=
  timely.modifySpan key (.of_course same) fun span => congrArg Course.depth (same span)

theorem join (timely : context.IsTimely moment.now) (pending : Pending)
    (correlation : Propagation.Correlation) (extension : Propagation.Extension) :
    (context.join moment pending correlation extension).IsTimely moment.now := by
  rintro _ ⟨⟩
  exact timely.opened.link extension pending

end IsTimely

inductive Reaches (context : Context) (now : Int) (effect : Effect) : Prop where
  | quiet (timely : effect.context.IsTimely now) (nothing : effect.report = none)
  | settled (middle : Context) (timely : middle.IsTimely now)
      (shape : ∀ opened, middle.current = some opened → opened.Sound)
      (context : effect.context = middle.settle.1) (report : effect.report = middle.settle.2)

/-- Every operation that keeps to the times leaves the open segment as it may be then. -/
theorem IsTimely.perform (timely : context.IsTimely moment.now) (sound : context.Sound)
    {operation : Operation} (keeps : operation.keepsTime) :
    context.Reaches moment.now (context.perform moment operation) := by
  cases operation with
  | create role name peer =>
    refine .quiet ?_ rfl
    rintro _ ⟨⟩
    exact timely.opened.enter (sound.opened_moment moment) context.extension role name peer
  | stop span =>
    unfold Context.perform
    dsimp only
    cases stopped : context.stopSpan moment.now span with
    | error => exact .quiet timely rfl
    | ok after =>
      obtain ⟨opened, index, rest, current, active, _, rfl⟩ := stopSpan_eq_ok.mp stopped
      have shape := sound.opened opened current
      obtain ⟨top, lookup, _⟩ := shape.entered index (active ▸ List.mem_cons_self)
      refine .settled { context with current := some (opened.leave moment.now index) } ?_ ?_ rfl rfl
      · rintro _ ⟨⟩
        exact (timely opened current).leave active lookup
      · rintro _ ⟨⟩
        exact shape.leave active
  | inject carrier => exact .quiet timely rfl
  | extract carrier =>
    refine .quiet ?_ rfl
    change (context.extract moment carrier).IsTimely moment.now
    unfold Context.extract
    split
    · exact timely.join _ _ _
    · exact timely
  | capture => exact .quiet timely rfl
  | resume snapshot =>
    refine .quiet ?_ rfl
    change (context.resume moment snapshot).IsTimely moment.now
    unfold Context.resume
    split
    · exact timely
    · split
      · exact timely.join _ _ _
      · exact timely
  | prepare key =>
    unfold Context.perform attempt
    dsimp only
    cases prepared : context.prepareAsync key with
    | error => exact .quiet timely rfl
    | ok after =>
      obtain ⟨_, rfl⟩ := prepareAsync_eq_ok.mp prepared
      exact .quiet (timely.modifySpan key .awaiting fun _ => rfl) rfl
  | finish key =>
    unfold Context.perform attempt
    dsimp only
    cases finished : context.finishAsync moment.now key with
    | error => exact .quiet timely rfl
    | ok after =>
      obtain ⟨_, rfl⟩ := finishAsync_eq_ok.mp finished
      have shape : (context.modifySpan key (·.completedAt moment.now)).Sound :=
        sound.modifySpan key fun _ positive => positive
      have ended := timely.modifySpan key .completedAt fun _ => rfl
      generalize context.modifySpan key (·.completedAt moment.now) = marked at shape ended
      exact .settled { marked with outstanding := marked.outstanding - 1 } ended shape.opened rfl
        rfl
  | annotate key remark =>
    exact .quiet (timely.edit key fun span => span.annotate_course moment.now keeps) rfl
  | applyFlags key extension =>
    exact .quiet (timely.edit key fun span => span.applyFlags_course extension moment.now) rfl
  | awaitCompletion => exact .quiet timely rfl
  | asyncStop span => cases keeps

end Context

namespace Journal

variable {journal : Journal} {now : Int}

/-- Each span that is awaited is counted. -/
def Covers (journal : Journal) : Prop := journal.awaited.length ≤ journal.context.outstanding

theorem Covers.step (covers : journal.Covers) (consistent : journal.Consistent) {step : Step}
    (keeps : step.2.keepsTime) : (journal.step step).Covers := by
  have next := consistent.step step
  have change := journal.context.perform_change step.1 step.2
  unfold Covers at covers ⊢
  cases paired : step.2.countsThroughSpans with
  | true =>
    rw [paired] at change
    cases Context.Change.tally change with
    | kept outstanding same =>
      have equal := consistent.awaited_length next same
      have count : (journal.step step).context.outstanding = _ := outstanding
      omega
    | more key outstanding absent added same =>
      have grown := consistent.awaited_length_succ next added absent same
      have count : (journal.step step).context.outstanding = _ := outstanding
      omega
    | fewer key outstanding present removed same =>
      have shrunk := next.awaited_length_succ consistent present removed same
      have count : (journal.step step).context.outstanding = _ := outstanding
      omega
  | false =>
    -- Only an expectation is left that no span was prepared for.
    obtain ⟨moment, operation⟩ := step
    cases operation with
    | awaitCompletion =>
      have equal := consistent.awaited_length next fun _ => Iff.rfl
      exact Nat.le_succ_of_le (Nat.le_trans (Nat.le_of_eq equal) covers)
    | asyncStop span => cases keeps
    | _ => cases paired

/-- Where nothing is outstanding no span is awaited. -/
theorem Covers.settled (covers : journal.Covers) (consistent : journal.Consistent)
    (done : journal.context.outstanding = 0) (key : SpanKey) :
    journal.context.completion? key ≠ some .awaited := by
  intro awaits
  have member := (consistent.awaited_iff key).mpr awaits
  have none : journal.awaited = [] := by
    unfold Covers at covers
    exact List.eq_nil_of_length_eq_zero (by omega)
  rw [none] at member
  cases member

/-- What holds of a journal at a time: the open segment is as it may be then, each awaited span is
counted, and every segment that was reported shows durations. -/
structure Timely (journal : Journal) (now : Int) : Prop where
  consistent : journal.Consistent
  sound : journal.context.Sound
  covers : journal.Covers
  context : journal.context.IsTimely now
  reports : ∀ report ∈ journal.reports, report.Lasting

theorem Timely.begin (config : AgentConfig) (moment : Moment) :
    (Journal.begin config moment).Timely moment.now where
  consistent := .begin config moment
  sound := .begin config moment
  covers := Nat.le_refl 0
  context := .begin config moment
  reports := fun _ => (nomatch ·)

theorem Timely.step (timely : journal.Timely now) {step : Step} (passes : now ≤ step.1.now)
    (keeps : step.2.keepsTime) : (journal.step step).Timely step.1.now := by
  have consistent := timely.consistent.step step
  have covers := timely.covers.step timely.consistent keeps
  have here : journal.context.IsTimely step.1.now := fun opened current =>
    (timely.context opened current).mono passes
  have sound := timely.sound.change (journal.context.perform_change step.1 step.2)
  cases here.perform timely.sound keeps with
  | quiet after nothing =>
    refine ⟨consistent, sound, covers, after, fun report member => ?_⟩
    change report ∈ journal.reports ++ _ at member
    rw [nothing, Option.toList_none, List.append_nil] at member
    exact timely.reports report member
  | settled middle before shape context handed =>
    have after : (journal.step step).context = middle.settle.1 := context
    refine ⟨consistent, sound, covers, ?_, fun report member => ?_⟩
    · intro opened current
      rw [after] at current
      by_cases quiet : middle.settle.2 = none
      · rw [Context.settle_of_quiet quiet] at current
        exact before opened current
      · obtain ⟨report, found⟩ := Option.ne_none_iff_exists'.mp quiet
        obtain ⟨_, _, _, _, settled⟩ := Context.settle_eq_some found
        rw [settled] at current
        cases current
    · change report ∈ journal.reports ++ _ at member
      rcases List.mem_append.mp member with earlier | new
      · exact timely.reports report earlier
      · rw [handed] at new
        have found : middle.settle.2 = some report := Option.mem_toList.mp new
        obtain ⟨opened, current, done, rfl, _⟩ := Context.settle_eq_some found
        have idle : opened.active = [] := by
          rw [← Context.active_of_current current]
          exact done.1
        refine (before opened current).lasting (shape opened current) idle ?_
        -- What was awaited before the report is awaited after it.
        intro index span lookup awaits
        refine covers.settled consistent ?_ (middle.keyOf index) ?_
        · rw [after, Context.outstanding_settle]
          exact done.2
        · rw [after, Context.completion?_settle, Context.completion?, Context.span?_eq,
            Context.spans_of_current current]
          simp [Context.keyOf, lookup, awaits]

theorem Timely.run (timely : journal.Timely now) {steps : List Step}
    (clock : (now :: steps.map (·.1.now)).Pairwise (· ≤ ·))
    (keeps : ∀ step ∈ steps, step.2.keepsTime) :
    ∀ report ∈ (journal.run steps).reports, report.Lasting := by
  induction steps generalizing journal now with
  | nil => exact timely.reports
  | cons step steps ih =>
    obtain ⟨first, later⟩ := List.pairwise_cons.mp clock
    exact ih (timely.step (first _ List.mem_cons_self) (keeps step List.mem_cons_self)) later
      fun other member => keeps other (List.mem_cons_of_mem _ member)

/-- Under a clock that does not go back every reported segment shows durations: no span of it ends
before it starts, or starts before the segment was opened or before its parent. The starts must be
left alone, and completions must be counted through the spans that complete. -/
theorem run_lasting (config : AgentConfig) (moment : Moment) (steps : List Step)
    (clock : (moment.now :: steps.map (·.1.now)).Pairwise (· ≤ ·))
    (keeps : ∀ step ∈ steps, step.2.keepsTime) :
    ∀ report ∈ ((Journal.begin config moment).run steps).reports, report.Lasting :=
  (Timely.begin config moment).run clock keeps

def lateRun : List Step :=
  [.create .entry "/order" "", .create .inner "work" "", .prepare ⟨0, 1⟩, .stop (.own ⟨0, 1⟩),
    .create .exit "/call" "peer:80", .stop (.own ⟨0, 2⟩), .stop (.own ⟨0, 0⟩),
    .finish ⟨0, 1⟩].zipIdx.map fun entry => (⟨(entry.2 : Int) + 1, "second", "trace"⟩, entry.1)

theorem lateRun_lasting :
    ∃ report, ((Journal.begin { instanceName := "instance" } ⟨0, "first", "trace"⟩).run
        lateRun).reports = [report] ∧ report.Lasting ∧
      report.spans.map (fun span => (span.start, span.finish)) = [(2, 8), (5, 6), (1, 7)] := by
  have lasting := run_lasting { instanceName := "instance" } ⟨0, "first", "trace"⟩ lateRun
    (by decide) (by decide)
  exact ⟨_, rfl, lasting _ List.mem_cons_self, by decide⟩

end Journal

end Native

end TraceAgent
