import TraceAgent.Telemetry.Identity

/-! The contexts that are attached to a thread, one of them the current one.

A stack is known by what it shows: the context that is current after any calls.
-/

set_option autoImplicit false

namespace TraceAgent.Telemetry

/-- Attaching a context yields a guard, and dropping the guard detaches the context. The guards
that were not dropped yet are counted from the latest one. -/
inductive StackCall where
  | attach (context : Context)
  | drop (guard : Nat)
  deriving DecidableEq, Repr

structure ContextStack where
  currentAfter : List StackCall → Context

namespace ContextStack

def current (stack : ContextStack) : Context := stack.currentAfter []

def after (stack : ContextStack) (call : StackCall) : ContextStack where
  currentAfter calls := stack.currentAfter (call :: calls)

def nest (contexts : List Context) : StackCall → List Context
  | .attach context => context :: contexts
  | .drop guard => contexts.eraseIdx guard

def latest (contexts : List Context) : Context := contexts.head?.getD .empty

/-- The stack that shows the latest of the attached contexts. -/
def holding (contexts : List Context) : ContextStack where
  currentAfter calls := latest (calls.foldl nest contexts)

end ContextStack

end TraceAgent.Telemetry
