import TraceAgent.Propagation.Correlation
import TraceAgent.Propagation.Extension
import TraceAgent.Telemetry.Identity
import TraceAgent.TraceId

/-! What is handed to another thread so that it can continue a trace. -/

set_option autoImplicit false

namespace TraceAgent.Propagation

/-- The span that was active when a snapshot was taken. -/
structure Anchor where
  traceId : TraceId
  segmentId : String
  spanId : Int
  endpoint : String
  deriving DecidableEq, Repr, Inhabited

def Anchor.isValid (anchor : Anchor) : Bool :=
  anchor.segmentId != "" && decide (-1 < anchor.spanId) && anchor.traceId.id != ""

inductive SnapshotValue where
  | text (value : String)
  | integer (value : Int)
  | flag (value : Bool)
  | bytes (value : List UInt8)
  | context (value : Telemetry.Context)
  deriving DecidableEq, Repr

namespace SnapshotValue

def text? : SnapshotValue → Option String
  | text value => some value
  | _ => none

def context? : SnapshotValue → Option Telemetry.Context
  | context value => some value
  | _ => none

end SnapshotValue

structure Snapshot where
  anchor : Option Anchor
  correlation : Correlation
  extension : Extension := {}
  bag : Dictionary SnapshotValue := .empty
  deriving DecidableEq

namespace Snapshot

/-- A snapshot without a span of its own, for backends that keep their context in the bag. -/
def shell (correlation : Correlation) : Snapshot := { anchor := none, correlation }

def isValid (snapshot : Snapshot) : Bool :=
  match snapshot.anchor with
  | some anchor => anchor.isValid
  | none => false

def store (snapshot : Snapshot) (name : String) (value : SnapshotValue) : Snapshot :=
  { snapshot with bag := snapshot.bag.insert name value }

def stored? (snapshot : Snapshot) (name : String) : Option SnapshotValue :=
  snapshot.bag.get? name

end Snapshot

end TraceAgent.Propagation
