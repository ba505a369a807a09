import TraceAgent.Propagation.Carrier
import TraceAgent.Propagation.Snapshot
import TraceAgent.Wire.Json

/-! References from a segment to the span that it continues. -/

set_option autoImplicit false

namespace TraceAgent.Segment

open Propagation Wire

inductive Crossing where
  | process
  | thread
  deriving DecidableEq, Repr, Inhabited

def Crossing.name : Crossing → String
  | process => "CrossProcess"
  | thread => "CrossThread"

/-- The parent span, and the way by which it became known. -/
structure Parent where
  crossing : Crossing
  traceId : String
  segmentId : String
  spanId : Int
  service : String
  instanceName : String
  endpoint : String
  address : Option String
  deriving DecidableEq, Repr, Inhabited

namespace Parent

def ofCarrier (carrier : Carrier) : Parent where
  crossing := .process
  traceId := carrier.origin.traceId
  segmentId := carrier.origin.segmentId
  spanId := carrier.origin.spanId
  service := carrier.origin.service
  instanceName := carrier.origin.instanceName
  endpoint := carrier.origin.endpoint
  address := some carrier.origin.address

def ofAnchor (anchor : Anchor) (service instanceName : String) : Parent where
  crossing := .thread
  traceId := anchor.traceId.id
  segmentId := anchor.segmentId
  spanId := anchor.spanId
  service := service
  instanceName := instanceName
  endpoint := anchor.endpoint
  address := none

def ofSnapshot? (snapshot : Snapshot) (service instanceName : String) : Option Parent :=
  snapshot.anchor.map fun anchor => ofAnchor anchor service instanceName

/-- What tells parents apart: segment id and span id. -/
def key (parent : Parent) : String × Int := (parent.segmentId, parent.spanId)

def same (first second : Parent) : Bool := first.key == second.key

def addTo (parents : List Parent) (parent : Parent) : List Parent :=
  if parents.any parent.same then parents else parents ++ [parent]

def distinct (parents : List Parent) : List Parent := parents.foldl addTo []

def toJson (parent : Parent) : Json :=
  .object ([("refType", .text parent.crossing.name),
    ("traceId", .text parent.traceId),
    ("parentTraceSegmentId", .text parent.segmentId),
    ("parentSpanId", .number parent.spanId),
    ("parentService", .text parent.service),
    ("parentServiceInstance", .text parent.instanceName),
    ("parentEndpoint", .text parent.endpoint)]
    ++ (parent.address.map fun address => ("networkAddressUsedAtPeer", .text address)).toList)

end Parent

end TraceAgent.Segment
