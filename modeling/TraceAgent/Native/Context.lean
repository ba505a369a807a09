import TraceAgent.Error
import TraceAgent.Native.OpenSegment

/-! Tracing contexts of the native backend.

A context has at most one open segment. The segment is reported when no span is
active and no asynchronous completion is outstanding; the next operation that
needs a segment opens a new one.
-/

set_option autoImplicit false

namespace TraceAgent.Native

open Segment Propagation

/-- A span of a context: which of its segments, and which span of it. -/
structure SpanKey where
  segment : Nat
  index : Nat
  deriving DecidableEq, Repr, Inhabited

structure Context where
  service : String
  instanceName : String
  current : Option OpenSegment
  past : List (List Span) := []
  correlation : Correlation
  extension : Extension := {}
  outstanding : Nat := 0
  deriving DecidableEq

/-- A span that is handed to an operation of a context: one of its own, one of another native
context, or one of another backend. -/
inductive SpanArgument where
  | own (key : SpanKey)
  | other (spanId : Nat)
  | foreign
  deriving DecidableEq, Repr

def SpanArgument.spanId : SpanArgument → Nat
  | own key => key.index
  | other spanId => spanId
  | foreign => 0

namespace Context

def begin (config : AgentConfig) (moment : Moment) : Context where
  service := config.service
  instanceName := config.instanceName
  current := some (.begin moment)
  correlation := { limits := config.limits }

def opened (context : Context) (moment : Moment) : OpenSegment :=
  context.current.getD (.begin moment)

def keyOf (context : Context) (index : Nat) : SpanKey := ⟨context.past.length, index⟩

def top? (context : Context) : Option (Nat × Span) := context.current.bind (·.top?)

def span? (context : Context) (key : SpanKey) : Option Span :=
  if key.segment = context.past.length then
    context.current.bind fun opened => opened.spans[key.index]?
  else (context.past[key.segment]?).bind fun spans => spans[key.index]?

/-- Spans can be changed as long as someone holds them, also after they were reported. -/
def modifySpan (context : Context) (key : SpanKey) (change : Span → Span) : Context :=
  if key.segment = context.past.length then
    { context with current := context.current.map (·.modifySpan key.index change) }
  else
    { context with past := context.past.modify key.segment (·.modify key.index change) }

def annotate (context : Context) (now : Int) (key : SpanKey) (remark : Remark) : Context :=
  context.modifySpan key (·.annotate now remark)

def createSpan (context : Context) (moment : Moment) (role : Role) (name peer : String) :
    Context × SpanKey :=
  let entered := (context.opened moment).enter moment.now context.extension role name peer
  ({ context with current := some entered.1 }, context.keyOf entered.2)

def activeSpan (context : Context) : Except TraceError SpanKey :=
  match context.top? with
  | some (index, _) => .ok (context.keyOf index)
  | none => .error .noActiveSpan

def traceId? (context : Context) : Option String := context.current.map (·.segment.traceId.id)

def origin (context : Context) (opened : OpenSegment) (index : Nat) (peer : String) : Origin where
  traceId := opened.segment.traceId.id
  segmentId := opened.segment.id
  spanId := index
  service := context.service
  instanceName := context.instanceName
  endpoint := opened.endpointName
  address := peer

def inject (context : Context) (now : Int) (carrier : Carrier) : Except TraceError Carrier :=
  match context.current with
  | none => .error .noActiveSpan
  | some opened =>
      match opened.top? with
      | none => .error .noActiveSpan
      | some (index, span) =>
          if span.role ≠ .exit then .error .injectOutsideExit
          else if span.peer = "" then .error .missingPeer
          else .ok
            { carrier with
              origin := context.origin opened index span.peer
              correlation := context.correlation
              extension := context.extension.sentNow now }

def join (context : Context) (moment : Moment) (pending : Pending) (correlation : Correlation)
    (extension : Extension) : Context :=
  { context with
    current := some ((context.opened moment).link moment.now extension pending)
    correlation := context.correlation.merge correlation
    extension := extension }

/-- Continue the trace of a received call. A carrier that is not valid is ignored. -/
def extract (context : Context) (moment : Moment) (carrier : Carrier) : Context :=
  if carrier.isValid then
    context.join moment ⟨.ofCarrier carrier, true⟩ carrier.correlation carrier.extension
  else context

def extractDiagnostics (context : Context) (carrier : Carrier) : List Diagnostic :=
  if carrier.isValid then context.correlation.mergeDiagnostics carrier.correlation
  else [.invalidCarrier]

def capture (context : Context) : Except TraceError Snapshot :=
  match context.current with
  | none => .error .noActiveSpan
  | some opened =>
      match opened.top? with
      | none => .error .noActiveSpan
      | some (index, _) => .ok
          { anchor := some
              { traceId := opened.segment.traceId
                segmentId := opened.segment.id
                spanId := index
                endpoint := opened.endpointName }
            correlation := context.correlation
            extension := context.extension }

/-- Continue the trace of another thread. A snapshot that is not valid is ignored. -/
def resume (context : Context) (moment : Moment) (snapshot : Snapshot) : Context :=
  match snapshot.anchor with
  | none => context
  | some anchor =>
      if anchor.isValid then
        context.join moment ⟨.ofAnchor anchor context.service context.instanceName, false⟩
          snapshot.correlation snapshot.extension
      else context

def resumeDiagnostics (context : Context) (snapshot : Snapshot) : List Diagnostic :=
  if snapshot.isValid then context.correlation.mergeDiagnostics snapshot.correlation else []

/-- Report the open segment if nothing in it is left to wait for. -/
def settle (context : Context) : Context × Option Segment :=
  match context.current with
  | none => (context, none)
  | some opened =>
      if opened.active = [] ∧ context.outstanding = 0 then
        ({ context with current := none, past := context.past ++ [opened.spans] },
          some opened.close)
      else (context, none)

/-- What stopping a span led to: whether no span is active any more, and the segment that was
reported with it. -/
structure Stopped where
  context : Context
  idle : Bool
  report : Option Segment

def leaveTop (context : Context) (now : Int) (opened : OpenSegment) (index : Nat) : Stopped :=
  let left := opened.leave now index
  let settled := settle { context with current := some left }
  { context := settled.1, idle := left.active.isEmpty, report := settled.2 }

def stopSpan (context : Context) (now : Int) (span : SpanArgument) : Except TraceError Stopped :=
  -- Stop the active span. No other span can be stopped.
  match span with
  | .foreign => .error (.foreignSpan .native)
  | span =>
      match context.current with
      | none => .error .noActiveSpan
      | some opened =>
          match opened.active with
          | [] => .error .noActiveSpan
          | index :: _ =>
              if span = .own (context.keyOf index) then .ok (context.leaveTop now opened index)
              else .error (.unexpectedSpan span.spanId)

def awaitCompletion (context : Context) : Context :=
  { context with outstanding := context.outstanding + 1 }

def complete (context : Context) : Context × Option Segment :=
  settle { context with outstanding := context.outstanding - 1 }

/-- Count a completion for any span of the native backend. -/
def asyncStop (context : Context) (span : SpanArgument) :
    Except TraceError (Context × Option Segment) :=
  match span with
  | .foreign => .error (.foreignSpan .native)
  | _ => .ok context.complete

def asyncStopDiagnostics (context : Context) (span : SpanArgument) : List Diagnostic :=
  match span with
  | .foreign => []
  | span => [.asyncSpanFinished span.spanId (context.outstanding - 1)]

def prepareAsync (context : Context) (key : SpanKey) : Except TraceError Context :=
  match context.span? key with
  | none => .error .noRunningContext
  | some span =>
      match span.completion with
      | .onStop =>
          .ok (context.modifySpan key ({ · with completion := .awaited })).awaitCompletion
      | .awaited | .completed => .error .asyncPreparedTwice

def finishAsync (context : Context) (now : Int) (key : SpanKey) :
    Except TraceError (Context × Option Segment) :=
  match context.span? key with
  | none => .error .noRunningContext
  | some span =>
      match span.completion with
      | .onStop => .error .asyncNotPrepared
      | .completed => .error .asyncFinishedTwice
      | .awaited =>
          .ok (context.modifySpan key
            ({ · with completion := .completed, finish := now })).complete

def hasAwaited (context : Context) : Bool :=
  context.past.any (·.any Span.isAwaited)
    || (match context.current with
        | some opened => opened.spans.any Span.isAwaited
        | none => false)

end Context

end TraceAgent.Native
