import TraceAgent.Segment.SpanRecord

/-! The part of a trace that runs in one context of one process. -/

set_option autoImplicit false

namespace TraceAgent

open Wire

structure Segment where
  id : String
  traceId : TraceId
  created : Int
  parents : List Segment.Parent := []
  spans : List Segment.SpanRecord := []
  deriving DecidableEq, Repr, Inhabited

namespace Segment

def addParent (segment : Segment) (parent : Parent) : Segment :=
  { segment with parents := Parent.addTo segment.parents parent }

/-- Join the trace of a parent. A segment that has joined one stays in it. -/
def joinTrace (segment : Segment) (traceId : String) : Segment :=
  if segment.traceId.isReceived then segment
  else { segment with traceId := .received traceId }

def link (segment : Segment) (parent : Parent) : Segment :=
  (segment.addParent parent).joinTrace parent.traceId

def archive (segment : Segment) (span : SpanRecord) : Segment :=
  { segment with spans := segment.spans ++ [span] }

def toJson (segment : Segment) (service instanceName : String) : Json :=
  .object [("traceId", .text segment.traceId.id),
    ("traceSegmentId", .text segment.id),
    ("spans", .list (segment.spans.map SpanRecord.toJson)),
    ("service", .text service),
    ("serviceInstance", .text instanceName),
    ("isSizeLimited", .flag false)]

end Segment

end TraceAgent
