import TraceAgent.Telemetry.Identity

/-! How a process tells another one which span a call came out of.

Tracing only hands headers to a propagator and takes headers from it. What they
say is up to the propagator.
-/

set_option autoImplicit false

namespace TraceAgent.Telemetry

/-- The headers that are written for a span, in order, and the context that is read from
headers. -/
structure Propagator where
  write : Identity → List (String × String)
  read : (String → Option String) → Context

end TraceAgent.Telemetry
