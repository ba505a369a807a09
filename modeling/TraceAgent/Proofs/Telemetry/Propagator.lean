import TraceAgent.Dictionary
import TraceAgent.Telemetry.B3

/-! What is asked of a propagator.

It writes headers that a carrier looks for, and from these another one reads the
same span again, as one of another process.
-/

set_option autoImplicit false

namespace TraceAgent.Telemetry

/-- Identities of one span. What they say about sampling may differ, and in which process the span
is. -/
structure Identity.SameSpan (first second : Identity) : Prop where
  traceId : first.traceId = second.traceId
  spanId : first.spanId = second.spanId

namespace Propagator

/-- Whatever span is read, it is one of another process. -/
def ReadsRemote (propagator : Propagator) : Prop :=
  ∀ read?, (propagator.read read?).identity.isValid → (propagator.read read?).identity.remote

structure WritesB3 (propagator : Propagator) : Prop where
  listed : ∀ identity, ∀ pair ∈ propagator.write identity, pair.1 ∈ B3.headers ∧ pair.2 ≠ ""
  once : ∀ identity, ((propagator.write identity).map (·.1)).Nodup

/-- From the headers that were written for a span, and no others, the span is read. -/
def Recovers (reader writer : Propagator) : Prop :=
  ∀ identity : Identity, identity.isValid →
    (reader.read fun name => lookup name (writer.write identity)).identity.SameSpan identity ∧
      (reader.read fun name => lookup name (writer.write identity)).identity.remote

end Propagator

theorem Identity.SameSpan.isValid {first second : Identity} (same : first.SameSpan second) :
    first.isValid = second.isValid := by
  unfold Identity.isValid
  rw [same.traceId, same.spanId]

end TraceAgent.Telemetry
