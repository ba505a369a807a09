import TraceAgent.Telemetry.Identity

/-! Where spans are started, changed, ended and exported.

A provider is known by what it shows after any calls: the identity that the next
span would get, what is recorded of the spans, and what was exported. Nothing is
said here about how it comes by that.
-/

set_option autoImplicit false

namespace TraceAgent.Telemetry

inductive Kind where
  | server
  | client
  | internal
  deriving DecidableEq, Repr, Inhabited

def Kind.name : Kind → String
  | server => "Server"
  | client => "Client"
  | internal => "Internal"

/-- What a span is started with. The parent is the span of a context. -/
structure Start where
  scope : String
  now : Int
  kind : Kind
  name : String
  parent : Context
  deriving DecidableEq, Repr

inductive Change where
  | attribute (key value : String)
  | exception (message : String) (now : Int)
  | failed (description : String)
  | rename (name : String)
  deriving DecidableEq, Repr

/-- The calls that a provider gets. A span is named by the number of spans that were started before
it. A span that nobody holds any more is dropped. -/
inductive Call where
  | start (start : Start)
  | change (span : Nat) (change : Change)
  | finish (span : Nat) (now : Int)
  | drop (span : Nat) (now : Int)
  | shutDown
  deriving DecidableEq, Repr

def Call.starts : Call → Nat
  | .start _ => 1
  | .change .. | .finish .. | .drop .. | .shutDown => 0

structure Event where
  name : String
  time : Int
  attributes : List (String × String)
  deriving DecidableEq, Repr

inductive Status where
  | unset
  | error (description : String)
  deriving DecidableEq, Repr, Inhabited

structure Recording where
  scope : String
  identity : Identity
  parentId : BitVec 64
  parentRemote : Bool
  kind : Kind
  name : String
  start : Int
  attributes : List (String × String) := []
  droppedAttributes : Nat := 0
  events : List Event := []
  droppedEvents : Nat := 0
  status : Status := .unset
  ended : Bool := false
  deriving DecidableEq, Repr

structure Export where
  recording : Recording
  finish : Int
  deriving DecidableEq, Repr

structure View where
  identity : Start → Identity
  recorded : Nat → Option Recording
  exports : List Export
  isOpen : Bool

structure Provider where
  started : Nat := 0
  viewAfter : List Call → View

namespace Provider

def view (provider : Provider) : View := provider.viewAfter []

def after (provider : Provider) (call : Call) : Provider where
  started := provider.started + call.starts
  viewAfter calls := provider.viewAfter (call :: calls)

def run (provider : Provider) (calls : List Call) : Provider := calls.foldl after provider

end Provider

end TraceAgent.Telemetry
