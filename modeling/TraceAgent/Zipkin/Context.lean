import TraceAgent.Error
import TraceAgent.Propagation.Carrier
import TraceAgent.Propagation.Snapshot
import TraceAgent.Segment.Remark
import TraceAgent.Telemetry.B3
import TraceAgent.Telemetry.Recorder
import TraceAgent.Zipkin.Scopes

/-! Tracing contexts of the Zipkin backend.

Spans are recorded by a telemetry provider. The span that is current on a thread
is that of the innermost scope opened there, and a new span becomes its child.
A context keeps the spans that it started and did not stop yet; with the last
of them it closes every scope of the thread.
-/

set_option autoImplicit false

namespace TraceAgent.Zipkin

open Propagation Segment

def componentTag : String := "component"
def layerTag : String := "layer"
def peerTag : String := "peer.service"

def contextKey : String := "b3"

def scopeName : String := "skywalking-zipkin"

structure Span where
  context : Telemetry.Context
  isEntry : Bool := false
  isExit : Bool := false
  isAsync : Bool := false
  deriving DecidableEq, Repr, Inhabited

def Span.identity (span : Span) : Telemetry.Identity := span.context.identity

structure Context where
  provider : Nat
  scope : String
  propagator : Telemetry.Propagator
  running : List (Telemetry.Identity × Nat) := []
  correlation : Correlation

def Context.received? (context : Context) (carrier : Carrier) : Option Telemetry.Context :=
  let received := context.propagator.read carrier.stored?
  if received.identity.isValid then some received else none

/-- What an operation of a context works on: the context, the scopes of the calling thread, the
spans of the backend, and the recorder. -/
structure State where
  context : Context
  scopes : Scopes
  spans : List Span
  recorder : Telemetry.Recorder

namespace State

def register (state : State) (span : Span) : Except TraceError (State × Nat) :=
  -- Keep a span as running and open a scope for it. A span runs once.
  if !span.identity.isValid then .error .noActiveSpan
  else if (state.context.running.lookup span.identity).isSome then
    .error (.duplicateSpan span.identity.spanText)
  else .ok
    ({ state with
        context :=
          { state.context with
            running := state.context.running ++ [(span.identity, state.spans.length)] }
        scopes := state.scopes.openFor span.context
        spans := state.spans ++ [span] },
      state.spans.length)

/-- Start a span under the current one. If it cannot run nobody gets hold of it. -/
def startSpan (state : State) (now : Int) (kind : Telemetry.Kind) (name : String)
    (use : Span → Span) : State × Except TraceError Nat :=
  let started := state.recorder.start state.context.provider state.context.scope now kind name
    state.scopes.current
  let state := { state with recorder := started.1 }
  match state.register (use { context := ⟨some started.2⟩ }) with
  | .ok (registered, index) => (registered, .ok index)
  | .error error =>
      ({ state with recorder := state.recorder.drop started.2 now }, .error error)

def changeSpan (state : State) (index : Nat) (change : Telemetry.Change) : State :=
  match (state.spans[index]?).bind (·.context.span) with
  | some span => { state with recorder := state.recorder.change span change }
  | none => state

def startEntry (state : State) (now : Int) (name : String) : State × Except TraceError Nat :=
  state.startSpan now .server name ({ · with isEntry := true })

def startInner (state : State) (now : Int) (name : String) : State × Except TraceError Nat :=
  state.startSpan now .internal name id

def startExit (state : State) (now : Int) (name peer : String) :
    State × Except TraceError Nat :=
  match state.startSpan now .client name ({ · with isExit := true }) with
  | (state, .ok index) => (state.changeSpan index (.attribute peerTag peer), .ok index)
  | (state, .error error) => (state, .error error)

def adopt (state : State) (context : Telemetry.Context) : Except TraceError (State × Nat) :=
  state.register { context, isEntry := true }

def activeSpan (state : State) : Except TraceError Nat :=
  match state.scopes.currentIdentity? with
  | none => .error .noActiveSpan
  | some identity =>
      match state.context.running.lookup identity with
      | some index => .ok index
      | none => .error .noActiveSpan

def finishSpan (state : State) (now : Int) (index : Nat) : State :=
  match (state.spans[index]?).bind (·.context.span) with
  | some span => { state with recorder := state.recorder.finish span now }
  | none => state

/-- Stop a span of the backend, from whichever context it is. It ends unless it completes
asynchronously; true if no span of this context is running any more. -/
def stopSpan (state : State) (now : Int) (index : Nat) : State × Bool :=
  match state.spans[index]? with
  | none => (state, state.context.running.isEmpty)
  | some span =>
      let ended := if span.isAsync then state else state.finishSpan now index
      let running := state.context.running.filter fun entry => entry.1 != span.identity
      ({ ended with
          context := { state.context with running }
          scopes :=
            let closed := state.scopes.close span.identity
            if running.isEmpty then closed.closeAll else closed },
        running.isEmpty)

def inject (state : State) (carrier : Carrier) : Except TraceError Carrier :=
  match state.scopes.currentIdentity? with
  | none => .error .noActiveSpan
  | some identity => .ok
      { carrier.storeAll (state.context.propagator.write identity) with
        correlation := state.context.correlation }

def extract (state : State) (carrier : Carrier) : State × Carrier :=
  -- Continue the trace of a received call: its span becomes current.
  ({ state with
      context :=
        { state.context with
          correlation := state.context.correlation.merge carrier.correlation }
      scopes := match state.context.received? carrier with
        | some received => state.scopes.attach received
        | none => state.scopes },
    { carrier with expected := some Telemetry.B3.headers })

def extractDiagnostics (state : State) (carrier : Carrier) : List Diagnostic :=
  (if (state.context.received? carrier).isSome then [] else [.noB3Headers])
    ++ state.context.correlation.mergeDiagnostics carrier.correlation

def capture (state : State) : Except TraceError Snapshot :=
  match state.scopes.currentIdentity? with
  | none => .error .noActiveSpan
  | some _ => .ok
      ((Snapshot.shell state.context.correlation).store contextKey
        (.context state.scopes.current))

def captured? (snapshot : Snapshot) : Option Telemetry.Context :=
  (snapshot.stored? contextKey).bind SnapshotValue.context?

/-- Continue the trace of another thread: the captured span becomes current. -/
def resume (state : State) (snapshot : Snapshot) : State :=
  { state with
    context :=
      { state.context with
        correlation := state.context.correlation.merge snapshot.correlation }
    scopes := match captured? snapshot with
      | some context => state.scopes.attach context
      | none => state.scopes }

def resumeDiagnostics (state : State) (snapshot : Snapshot) : List Diagnostic :=
  (if (captured? snapshot).isSome then [] else [.noSnapshotContext])
    ++ state.context.correlation.mergeDiagnostics snapshot.correlation

def traceId? (state : State) : Option String :=
  state.scopes.currentIdentity?.map (·.traceText)

end State

/-- What a remark changes of a span. Spans of the backend continue their parents through telemetry
contexts alone. -/
def changes (now : Int) : Remark → List Telemetry.Change
  | .component component => [.attribute componentTag component.name]
  | .layer layer => [.attribute layerTag layer.name]
  | .tag key value => [.attribute key value]
  | .failure failure => [.exception failure.message now, .failed failure.message]
  | .rename name => [.rename name]
  | .peer peer => [.attribute peerTag peer]
  | .event .. | .failed | .startNow | .startAt _ | .parent _ | .skipAnalysis => []

def refusal? : Remark → Option TraceError
  | .parent _ => some (.unsupported "segment references on zipkin spans")
  | _ => none

def remarkDiagnostics : Remark → List Diagnostic
  | .startAt time => [.startTimeIgnored time]
  | _ => []

end TraceAgent.Zipkin
