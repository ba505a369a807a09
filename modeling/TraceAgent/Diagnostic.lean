import TraceAgent.Backend

/-! Events that the agent reports about itself.

They tell an operator what was ignored or done on the side. No operation reads
them back.
-/

set_option autoImplicit false

namespace TraceAgent

inductive Diagnostic where
  | unknownBackend (normalized : String)
  | backendSelected (backend : Backend) (service : String)
  | malformedOrigin (length : Nat)
  | malformedExtension (length : Nat)
  | malformedElement (length : Nat)
  | valueTooLong (key : String) (length : Nat)
  | tooManyElements (key : String) (limit : Nat)
  | contextCreated (segmentId : String)
  | invalidCarrier
  | segmentFinished (segmentId : String) (spans : Nat)
  | segmentDropped (segmentId : String)
  | asyncSpanFinished (spanId : Int) (remaining : Nat)
  | snapshotFromCurrent
  | noB3Headers
  | noSnapshotContext
  | startTimeIgnored (start : Int)
  deriving DecidableEq, Repr

namespace Diagnostic

inductive Level where
  | debug
  | info
  | warning
  deriving DecidableEq, Repr

def Level.name : Level → String
  | debug => "DEBUG"
  | info => "INFO"
  | warning => "WARN"

inductive Field where
  | text (value : String)
  | number (value : Int)
  deriving DecidableEq, Repr

def level : Diagnostic → Level
  | unknownBackend _ => .warning
  | backendSelected .. => .info
  | _ => .debug

def name : Diagnostic → String
  | unknownBackend _ => "AgentConfig.InvalidTracerBackend"
  | backendSelected .. => "TracerBackend.Selected"
  | malformedOrigin _ => "PrimaryContext.MalformedHeader"
  | malformedExtension _ => "ExtensionContext.MalformedHeader"
  | malformedElement _ => "CorrelationContext.MalformedElement"
  | valueTooLong .. => "CorrelationContext.ValueTooLong"
  | tooManyElements .. => "CorrelationContext.TooManyElements"
  | contextCreated _ => "TracingContext.Created"
  | invalidCarrier => "TracingContext.InvalidCarrier"
  | segmentFinished .. => "TracingContext.SegmentFinished"
  | segmentDropped _ => "NoopSegmentReporter.Dropped"
  | asyncSpanFinished .. => "TracingContext.AsyncSpanFinished"
  | snapshotFromCurrent => "ContextManager.SnapshotFromCurrent"
  | noB3Headers => "ZipkinTracerContext.NoB3Headers"
  | noSnapshotContext => "ZipkinTracerContext.NoSnapshotContext"
  | startTimeIgnored _ => "ZipkinSpan.StartTimeIgnored"

private def headerFields (header : String) (length : Nat) : List (String × Field) :=
  [("header", .text header), ("length", .number length)]

def fields : Diagnostic → List (String × Field)
  | unknownBackend normalized =>
      [("message", .text (Backend.unknownMessage normalized
        ++ " in SW_AGENT_TRACER. Valid values are: native, zipkin. "
        ++ "Using fallback backend: native"))]
  | backendSelected backend service =>
      [("backend", .text backend.label), ("service_name", .text service)]
  | malformedOrigin length => headerFields "sw8" length
  | malformedExtension length => headerFields "sw8-extension" length
  | malformedElement length => headerFields "sw8-correlation" length
  | valueTooLong key length => [("key", .text key), ("length", .number length)]
  | tooManyElements key limit => [("key", .text key), ("limit", .number limit)]
  | contextCreated segmentId => [("segment_id", .text segmentId)]
  | segmentFinished segmentId spans =>
      [("segment_id", .text segmentId), ("spans", .number spans)]
  | segmentDropped segmentId => [("segment_id", .text segmentId)]
  | asyncSpanFinished spanId remaining =>
      [("span_id", .number spanId), ("remaining", .number remaining)]
  | startTimeIgnored start => [("start_time", .number start)]
  | invalidCarrier | snapshotFromCurrent | noB3Headers | noSnapshotContext => []

end Diagnostic

end TraceAgent
