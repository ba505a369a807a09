import TraceAgent.Proofs.Native.Run

/-! Contexts that are still in their first segment.

A thread leaves its context when the last span stops, so the context that a
thread is bound to has not reported anything. If no span is active there, the
context was begun to continue a trace and has no spans yet.
-/

set_option autoImplicit false

namespace TraceAgent.Native.Context

open Segment Propagation

variable {context : Context} {moment : Moment} {key : SpanKey}

theorem top?_of_idle (idle : context.active = []) : context.top? = none := by
  unfold top?
  cases current : context.current with
  | none => rfl
  | some opened =>
    rw [active_of_current current] at idle
    change opened.top? = none
    unfold OpenSegment.top?
    rw [idle]

theorem activeSpan_of_idle (idle : context.active = []) :
    context.activeSpan = .error .noActiveSpan := by
  unfold activeSpan
  rw [top?_of_idle idle]

theorem stopSpan_of_idle (idle : context.active = []) (now : Int) (span : SpanArgument) :
    ∃ error, context.stopSpan now span = .error error := by
  cases stopped : context.stopSpan now span with
  | error error => exact ⟨error, rfl⟩
  | ok after =>
    obtain ⟨opened, index, rest, current, active, _⟩ := stopSpan_eq_ok.mp stopped
    rw [active_of_current current, active] at idle
    cases idle

theorem complete_of_active (busy : context.active ≠ []) :
    context.complete = ({ context with outstanding := context.outstanding - 1 }, none) :=
  settle_of_not_done fun done => busy done.1

/-- The segment that the context began with is open, and has spans only while one is active. -/
structure IsFresh (context : Context) : Prop where
  first : context.past = []
  isOpen : context.current.isSome
  bare : context.active = [] → context.spans = []

namespace IsFresh

theorem begin (config : AgentConfig) (moment : Moment) : (Context.begin config moment).IsFresh where
  first := rfl
  isOpen := rfl
  bare := fun _ => rfl

theorem createSpan (fresh : context.IsFresh) (moment : Moment) (role : Role) (name peer : String) :
    (context.createSpan moment role name peer).1.IsFresh where
  first := fresh.first
  isOpen := rfl
  bare := fun idle => absurd idle (active_createSpan role name peer)

theorem join (fresh : context.IsFresh) (moment : Moment) (pending : Pending)
    (correlation : Correlation) (extension : Extension) :
    (context.join moment pending correlation extension).IsFresh where
  first := fresh.first
  isOpen := rfl
  bare := by
    intro idle
    rw [active_join] at idle
    rw [← List.length_eq_zero_iff, length_spans_join, List.length_eq_zero_iff]
    exact fresh.bare idle

theorem extract (fresh : context.IsFresh) (moment : Moment) (carrier : Carrier) :
    (context.extract moment carrier).IsFresh := by
  unfold Context.extract
  split
  · exact fresh.join moment _ _ _
  · exact fresh

theorem resume (fresh : context.IsFresh) (moment : Moment) (snapshot : Snapshot) :
    (context.resume moment snapshot).IsFresh := by
  unfold Context.resume
  split
  · exact fresh
  · split
    · exact fresh.join moment _ _ _
    · exact fresh

/-- As long as a span is active the segment stays open. -/
theorem leaveTop (fresh : context.IsFresh) {now : Int} {opened : OpenSegment} {index : Nat}
    (busy : (context.leaveTop now opened index).idle = false) :
    (context.leaveTop now opened index).context.IsFresh := by
  have left : (opened.leave now index).active ≠ [] := fun idle =>
    Bool.noConfusion (busy.symm.trans (List.isEmpty_iff.mpr idle))
  rw [leaveTop_of_active context left]
  exact ⟨fresh.first, rfl, fun idle => absurd idle left⟩

theorem modifySpan (fresh : context.IsFresh) (key : SpanKey) (change : Span → Span) :
    (context.modifySpan key change).IsFresh where
  first := by
    rw [past_modifySpan, fresh.first]
    split
    · rfl
    · exact List.modify_nil _ _
  isOpen := by
    rw [current_modifySpan]
    split
    · rw [Option.isSome_map]
      exact fresh.isOpen
    · exact fresh.isOpen
  bare := by
    intro idle
    rw [active_modifySpan] at idle
    rw [spans_modifySpan, fresh.bare idle]
    split
    · exact List.modify_nil _ _
    · rfl

theorem awaitCompletion (fresh : context.IsFresh) : context.awaitCompletion.IsFresh :=
  ⟨fresh.first, fresh.isOpen, fresh.bare⟩

theorem span?_eq_none (fresh : context.IsFresh) (idle : context.active = []) (key : SpanKey) :
    context.span? key = none := by
  rw [span?_eq, fresh.first, fresh.bare idle]
  split <;> rfl

theorem modifySpan_eq (fresh : context.IsFresh) (idle : context.active = []) (key : SpanKey)
    (change : Span → Span) : context.modifySpan key change = context := by
  obtain ⟨opened, current⟩ := Option.isSome_iff_exists.mp fresh.isOpen
  have spans : opened.spans = [] := (spans_of_current current).symm.trans (fresh.bare idle)
  have same : opened.modifySpan key.index change = opened := by
    cases opened
    cases spans
    exact congrArg (OpenSegment.mk _ · _ _ _ _) (List.modify_nil _ _)
  have first := fresh.first
  unfold Context.modifySpan
  cases context
  cases first
  cases current
  split
  · exact congrArg (Context.mk _ _ · _ _ _ _) (congrArg some same)
  · exact congrArg (Context.mk _ _ _ · _ _ _) (List.modify_nil _ _)

/-- A completion comes in while another span is active. -/
theorem finishAsync (fresh : context.IsFresh) {now : Int} {after : Context × Option Segment}
    (finished : context.finishAsync now key = .ok after) : after.1.IsFresh := by
  obtain ⟨awaited, rfl⟩ := finishAsync_eq_ok.mp finished
  have marked := fresh.modifySpan key (·.completedAt now)
  have busy : context.active ≠ [] := by
    intro idle
    rw [completion?, fresh.span?_eq_none idle] at awaited
    cases awaited
  rw [complete_of_active (by rwa [active_modifySpan])]
  exact ⟨marked.first, marked.isOpen, marked.bare⟩

end IsFresh

end TraceAgent.Native.Context
