import TraceAgent.Proofs.Native.Run
import TraceAgent.Proofs.Propagation.Correlation

/-! The correlation data of a native context.

A context takes data over as it joins a trace, within the limits that it has
from the settings of its agent; nothing else changes them.
-/

set_option autoImplicit false

namespace TraceAgent.Native.Context

open Propagation

variable {context after : Context} {moment : Moment} {config : AgentConfig}

/-- What stays where no trace is joined. -/
structure Lasting (before after : Context) : Prop where
  service : after.service = before.service
  instanceName : after.instanceName = before.instanceName
  correlation : after.correlation = before.correlation
  extension : after.extension = before.extension

namespace Lasting

variable {before middle : Context}

theorem settle (lasting : Lasting before middle) : Lasting before middle.settle.1 := by
  unfold Context.settle
  split
  · exact lasting
  · split
    · exact ⟨lasting.service, lasting.instanceName, lasting.correlation, lasting.extension⟩
    · exact lasting

theorem counting (lasting : Lasting before middle) (outstanding : Nat) :
    Lasting before { middle with outstanding } :=
  ⟨lasting.service, lasting.instanceName, lasting.correlation, lasting.extension⟩

theorem modifySpan (context : Context) (key : SpanKey) (change : Span → Span) :
    Lasting context (context.modifySpan key change) := by
  unfold Context.modifySpan
  split <;> exact ⟨rfl, rfl, rfl, rfl⟩

end Lasting

/-- Only a step that joins a trace, and reports nothing, changes any of it. -/
theorem Change.lasting {paired : Bool} {report : Option Segment}
    (change : Change context moment paired after report) :
    Lasting context after ∨ report = none ∧ ∃ pending correlation extension,
      after = context.join moment pending correlation extension := by
  cases change with
  | stay => exact .inl ⟨rfl, rfl, rfl, rfl⟩
  | create role name peer => exact .inl ⟨rfl, rfl, rfl, rfl⟩
  | leave current active => exact .inl (Lasting.settle ⟨rfl, rfl, rfl, rfl⟩)
  | join pending correlation extension => exact .inr ⟨rfl, pending, correlation, extension, rfl⟩
  | edit key depth completion parents descent => exact .inl (.modifySpan context key _)
  | prepare key ready => exact .inl ((Lasting.modifySpan context key _).counting _)
  | finish key awaited => exact .inl ((Lasting.modifySpan context key _).counting _).settle
  | expect => exact .inl ⟨rfl, rfl, rfl, rfl⟩
  | complete => exact .inl (Lasting.settle ⟨rfl, rfl, rfl, rfl⟩)

theorem Change.correlation {paired : Bool} {report : Option Segment}
    (change : Change context moment paired after report) :
    after.correlation = context.correlation ∨
      ∃ other, after.correlation = context.correlation.merge other := by
  rcases change.lasting with lasting | ⟨_, _, correlation, _, rfl⟩
  · exact .inl lasting.correlation
  · exact .inr ⟨correlation, rfl⟩

structure Within (context : Context) (config : AgentConfig) : Prop where
  limits : context.correlation.limits = config.limits
  bounded : context.correlation.Bounded

theorem Within.change {paired : Bool} {report : Option Segment}
    (within : context.Within config) (change : Change context moment paired after report) :
    after.Within config := by
  rcases change.correlation with same | ⟨other, more⟩
  · exact ⟨same ▸ within.limits, same ▸ within.bounded⟩
  · constructor
    · rw [more, Correlation.limits_merge, within.limits]
    · rw [more]
      exact within.bounded.merge other

theorem Within.run (within : context.Within config) (steps : List Step) :
    (context.run steps).Within config := by
  induction steps generalizing context with
  | nil => exact within
  | cons step steps ih => exact ih (within.change (perform_change context step.1 step.2))

theorem BegunBy.within (begun : context.BegunBy config) : context.Within config := by
  obtain ⟨moment, steps, rfl⟩ := begun
  exact Within.run ⟨rfl, .empty config.limits⟩ steps

/-- What is handed to a call carries the data and the flags of the context. -/
theorem inject_carries {now : Int} {carrier prepared : Carrier}
    (injected : context.inject now carrier = .ok prepared) :
    prepared.correlation = context.correlation ∧
      prepared.extension = context.extension.sentNow now := by
  unfold inject at injected
  split at injected
  · cases injected
  · split at injected
    · cases injected
    · split at injected
      · cases injected
      · split at injected
        · cases injected
        · simp [← Except.ok.inj injected]

theorem correlation_inject {now : Int} {carrier prepared : Carrier}
    (injected : context.inject now carrier = .ok prepared) :
    prepared.correlation = context.correlation := (inject_carries injected).1

theorem capture_carries {snapshot : Snapshot} (captured : context.capture = .ok snapshot) :
    snapshot.correlation = context.correlation ∧ snapshot.extension = context.extension := by
  unfold capture at captured
  split at captured
  · cases captured
  · split at captured
    · cases captured
    · simp [← Except.ok.inj captured]

end TraceAgent.Native.Context
