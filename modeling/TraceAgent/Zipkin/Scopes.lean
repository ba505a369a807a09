import TraceAgent.Telemetry.ContextStack

/-! The scopes that tracing has open on a thread.

Each of them is an attached context, known by the identity of its span and held
by the guard of the attachment, so that a span that stops can close its own
scope while others stay open.
-/

set_option autoImplicit false

namespace TraceAgent.Zipkin

open Telemetry (Context ContextStack Identity)

/-- The open scopes, the latest first, and the stack that their contexts are attached to. -/
structure Scopes where
  opened : List Identity
  stack : ContextStack

namespace Scopes

def current (scopes : Scopes) : Context := scopes.stack.current

def attach (scopes : Scopes) (context : Context) : Scopes where
  opened := context.identity :: scopes.opened
  stack := scopes.stack.after (.attach context)

/-- Open a scope unless its span is current already. -/
def openFor (scopes : Scopes) (context : Context) : Scopes :=
  if scopes.current.identity = context.identity then scopes else scopes.attach context

def close (scopes : Scopes) (identity : Identity) : Scopes :=
  -- Close the latest scope of a span, wherever it stands.
  match scopes.opened.findIdx? (· == identity) with
  | none => scopes
  | some place =>
      { opened := scopes.opened.eraseIdx place
        stack := scopes.stack.after (.drop place) }

def closeAll (scopes : Scopes) : Scopes where
  opened := []
  stack := scopes.opened.foldl (fun stack _ => stack.after (.drop 0)) scopes.stack

def currentIdentity? (scopes : Scopes) : Option Identity :=
  if scopes.current.identity.isValid then some scopes.current.identity else none

end Scopes

end TraceAgent.Zipkin
