import TraceAgent.Backend
import TraceAgent.Text.Numeral

/-! The ways in which a tracing operation can fail. -/

set_option autoImplicit false

namespace TraceAgent

inductive TraceError where
  | duplicateSpan (spanId : String)
  | noActiveSpan
  | noRunningContext
  | unexpectedSpan (spanId : Int)
  | injectOutsideExit
  | missingPeer
  | foreignSpan (expected : Backend)
  | unsupported (operation : String)
  | asyncPreparedTwice
  | asyncNotPrepared
  | asyncFinishedTwice
  | poisonedLock
  | other (text : String)
  deriving DecidableEq, Repr

namespace TraceError

def message : TraceError → String
  | duplicateSpan spanId =>
      "span '" ++ spanId ++ "' is already registered in the running context"
  | noActiveSpan => "no active span"
  | noRunningContext => "no running tracer context on the current thread"
  | unexpectedSpan spanId => "span " ++ Numeral.text spanId ++ " is not the active span"
  | injectOutsideExit => "inject can be done only in an exit span"
  | missingPeer => "exit span has no remote peer"
  | foreignSpan expected =>
      "span was not created by the " ++ expected.name ++ " tracer context"
  | unsupported operation =>
      "operation '" ++ operation ++ "' is not supported by this tracer backend"
  | asyncPreparedTwice => "prepare for async repeatedly"
  | asyncNotPrepared => "span is not prepared for async"
  | asyncFinishedTwice => "async span finished repeatedly"
  | poisonedLock => "poisoned lock: another task failed inside"
  | other text => text

end TraceError

end TraceAgent
