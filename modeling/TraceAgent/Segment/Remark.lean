import TraceAgent.Segment.SpanRecord

/-! What the application can say about a span while it has it at hand. -/

set_option autoImplicit false

namespace TraceAgent.Segment

structure Failure where
  kind : String
  message : String
  deriving DecidableEq, Repr

inductive Remark where
  | component (component : Component)
  | layer (layer : Layer)
  | tag (key value : String)
  | failure (failure : Failure)
  | event (time : Int) (fields : List (String × String))
  | failed
  | rename (name : String)
  | peer (peer : String)
  | startNow
  | startAt (time : Int)
  | parent (parent : Parent)
  | skipAnalysis
  deriving DecidableEq, Repr

end TraceAgent.Segment
