import TraceAgent.Proofs.Application.Separation
import TraceAgent.Proofs.Native.Capture
import TraceAgent.Proofs.Native.Resumption

/-! A trace that goes on in another thread.

One thread captures a snapshot and another one continues it. The segment of the
second thread refers to the captured span, and so does the span that is active
there. If none is active the reference waits, whatever happens in the process,
until the thread creates a span.
-/

set_option autoImplicit false

namespace TraceAgent

open Propagation
open Segment (Role Parent)

def Command.isPassive : Command → Bool
  | .create .. => false
  | .extract carrier => !carrier.isValid
  | .resume snapshot => !snapshot.isValid
  | _ => true

/-- The thread creates no span, continues no trace and does not end. -/
def Event.isPassive (thread : Nat) : Event → Bool
  | .perform other (.thread _) command => other != thread || command.isPassive
  | .endThread other => other != thread
  | _ => true

namespace Application

variable {app later : Application} {thread agent id : Nat} {context : Native.Context}

/-- The thread works in a native context in which no span is active. -/
structure Waits (app : Application) (thread id : Nat) (context : Native.Context) : Prop where
  bound : app.bound thread = some id
  found : ∃ owner, app.contexts[id]? = some (.native owner context)
  idle : context.active = []

namespace Waits

/-- Another thread does not come near the context. -/
theorem moves {other : Nat} (waits : app.Waits thread id context) (settled : app.Settled)
    (apart : other ≠ thread) (moves : Moves other app later) : later.Waits thread id context where
  bound := (moves.others thread (Ne.symm apart)).trans waits.bound
  found := by
    obtain ⟨owner, found⟩ := waits.found
    exact ⟨owner, (moves.kept id (settled.length waits.bound)
      (settled.away (Ne.symm apart) waits.bound)).trans found⟩
  idle := waits.idle

theorem aside (waits : app.Waits thread id context) (settled : app.Settled)
    (aside : Aside app later) : later.Waits thread id context where
  bound := by rw [aside.bound]; exact waits.bound
  found := by
    obtain ⟨owner, found⟩ := waits.found
    obtain ⟨started, here, fresh⟩ := settled.stands thread id waits.bound
    cases found.symm.trans here
    obtain ⟨changed, after, edited⟩ := aside.edits thread id _ waits.bound found
    exact ⟨owner, edited.idle owner context rfl fresh waits.idle ▸ after⟩
  idle := waits.idle

theorem commit {owner : Nat} (waits : app.Waits thread id context)
    (found : app.contexts[id]? = some (.native owner context)) :
    (app.commit thread owner id context context).Waits thread id context where
  bound := by rw [bound_commit]; exact waits.bound
  found := ⟨owner, getElem?_commit found⟩
  idle := waits.idle

theorem note (waits : app.Waits thread id context) (diagnostics : List Diagnostic) :
    (app.note diagnostics).Waits thread id context := ⟨waits.bound, waits.found, waits.idle⟩

theorem finishSpan (waits : app.Waits thread id context) (span : SpanRef) :
    ∃ error, app.finishSpan thread id span = (app, .error error) := by
  obtain ⟨owner, found⟩ := waits.found
  obtain ⟨error, refused⟩ :=
    Native.Context.stopSpan_of_idle waits.idle app.now (argument id span)
  refine ⟨error, ?_⟩
  unfold Application.finishSpan stopSpan
  rw [found]
  unfold stopNative
  dsimp only
  rw [refused]

theorem stopActive (waits : app.Waits thread id context) :
    app.stopActive thread = (app, .error .noActiveSpan) := by
  obtain ⟨owner, found⟩ := waits.found
  unfold Application.stopActive running
  rw [waits.bound]
  dsimp only
  rw [activeSpan_native found, Native.Context.activeSpan_of_idle waits.idle]
  rfl

theorem extract (waits : app.Waits thread id context) {carrier : Carrier}
    (blank : ¬ carrier.isValid) : (app.extract thread id carrier).1.Waits thread id context := by
  obtain ⟨owner, found⟩ := waits.found
  rw [extract_native thread carrier found]
  have same : context.extract (app.moment thread owner) carrier = context := if_neg blank
  rw [same]
  exact (waits.commit found).note _

theorem resume (waits : app.Waits thread id context) {snapshot : Snapshot}
    (blank : ¬ snapshot.isValid) : (app.resume thread id snapshot).Waits thread id context := by
  obtain ⟨owner, found⟩ := waits.found
  unfold Application.resume
  rw [found]
  dsimp only
  rw [Native.Context.resume_of_invalid blank]
  exact (waits.commit found).note _

theorem performBound (waits : app.Waits thread id context) {command : Command}
    (passive : command.isPassive) :
    (app.performBound thread agent command).app.Waits thread id context := by
  cases command with
  | create role name peer carrier => cases passive
  | stop span =>
    cases span with
    | none =>
      unfold Application.performBound
      dsimp only
      rw [waits.stopActive]
      exact waits
    | some span =>
      obtain ⟨error, refused⟩ := waits.finishSpan span
      unfold Application.performBound stopBound running
      dsimp only
      rw [waits.bound]
      dsimp only
      rw [refused]
      exact waits
  | inject carrier =>
    unfold Application.performBound
    dsimp only
    split <;> exact waits
  | extract carrier =>
    have blank : ¬ carrier.isValid := by simpa [Command.isPassive] using passive
    unfold Application.performBound extractBound running
    dsimp only
    rw [waits.bound]
    exact waits.extract blank
  | resume snapshot =>
    have blank : ¬ snapshot.isValid := by simpa [Command.isPassive] using passive
    unfold Application.performBound resumeBound
    dsimp only
    split
    · exact waits.note _
    · rw [obtain_of_bound agent waits.bound]
      exact waits.resume blank
  | _ => exact waits

theorem after {event : Event} (waits : app.Waits thread id context) (settled : app.Settled)
    (allowed : app.Allows event) (passive : event.isPassive thread) :
    (app.after event).Waits thread id context := by
  cases acts : event.actor? with
  | none => exact waits.aside settled (aside_after allowed acts)
  | some other =>
    by_cases apart : other = thread
    · -- The thread itself acts, and it neither ends nor does anything to its context.
      rw [apart] at acts
      cases event with
      | perform caller target command =>
        cases target with
        | context id => cases acts
        | thread agent =>
          cases acts
          refine waits.performBound ?_
          simpa [Event.isPassive] using passive
      | endThread caller =>
        cases acts
        simp [Event.isPassive] at passive
      | _ => cases acts
    · exact waits.moves settled apart (moves_after allowed acts)

theorem foldl {events : List Event} (waits : app.Waits thread id context) (settled : app.Settled)
    (admitted : app.Admits events) (passive : ∀ event ∈ events, event.isPassive thread) :
    (events.foldl Application.after app).Waits thread id context := by
  induction events generalizing app with
  | nil => exact waits
  | cons event rest ih =>
    exact ih (waits.after settled admitted.1 (passive event List.mem_cons_self))
      (settled.after admitted.1) admitted.2 fun other later =>
        passive other (List.mem_cons_of_mem event later)

end Waits

theorem RunsNative.known (native : app.RunsNative thread agent) (free : app.bound thread = none) :
    agent < app.agents.length := by
  unfold RunsNative at native
  rw [free] at native
  obtain ⟨config, ids, reporter, found⟩ := native
  exact (List.getElem?_eq_some_iff.mp found).1

theorem Waits.createSpan {parent : Parent} (waits : app.Waits thread id context)
    (pending : context.waiting? = some ⟨parent, false⟩) (role : Role) (name peer : String) :
    ∃ created key, app.createSpan thread id role name peer = (created, .ok (.native id key)) ∧
      (created.nativeSpan? id key).map (·.parents) = some [parent] := by
  obtain ⟨owner, found⟩ := waits.found
  have lists := Native.Context.parentsOf_createSpan waits.idle pending (app.moment thread owner)
    role name peer
  refine ⟨_, _, createSpan_native thread role name peer found, ?_⟩
  unfold nativeSpan?
  rw [getElem?_commit found]
  dsimp only
  unfold Native.Context.parentsOf at lists
  cases span : (context.createSpan (app.moment thread owner) role name peer).1.span?
      (context.createSpan (app.moment thread owner) role name peer).2 with
  | none =>
    rw [span] at lists
    cases lists
  | some created =>
    rw [span] at lists
    exact congrArg some lists

end Application

end TraceAgent
