import TraceAgent.Text.Hexadecimal

/-! The identity of a span in a telemetry trace, and the contexts that hold one. -/

set_option autoImplicit false

namespace TraceAgent.Telemetry

/-- Two identities with the same ids differ if their flags differ, or if one came from
another process. -/
structure Identity where
  traceId : BitVec 128
  spanId : BitVec 64
  flags : BitVec 8
  remote : Bool
  deriving DecidableEq, Repr, Inhabited

namespace Identity

def none : Identity := ⟨0, 0, 0, false⟩

def isValid (identity : Identity) : Bool := identity.traceId != 0 && identity.spanId != 0

def isSampled (identity : Identity) : Bool := identity.flags &&& 1 != 0

def traceText (identity : Identity) : String :=
  String.ofList (Hexadecimal.ofNat 32 identity.traceId.toNat)

def spanText (identity : Identity) : String :=
  String.ofList (Hexadecimal.ofNat 16 identity.spanId.toNat)

end Identity

/-- A span that was started in this process: the provider, and how many spans had been started
with it before. -/
structure Handle where
  provider : Nat
  number : Nat
  deriving DecidableEq, Repr, Inhabited

/-- A span as a context holds it. A span of another process is no more than its identity. -/
structure Span where
  identity : Identity
  handle : Option Handle
  deriving DecidableEq, Repr, Inhabited

structure Context where
  span : Option Span
  deriving DecidableEq, Repr, Inhabited

namespace Context

def empty : Context := ⟨.none⟩

def remote (traceId : BitVec 128) (spanId : BitVec 64) (flags : BitVec 8) : Context :=
  ⟨some ⟨⟨traceId, spanId, flags, true⟩, .none⟩⟩

def identity (context : Context) : Identity :=
  match context.span with
  | some span => span.identity
  | .none => .none

end Context

end TraceAgent.Telemetry
