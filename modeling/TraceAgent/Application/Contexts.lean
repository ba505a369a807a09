import TraceAgent.Application.Basic
import TraceAgent.Text.Quoted

/-! The operations of tracing contexts, for either backend.

An operation that reads answers a result; one that acts answers the process
afterwards, together with a result if it can fail or has something to say.
-/

set_option autoImplicit false

namespace TraceAgent.Application

open Propagation
open Segment (Role)

def noTraceId : String := "N/A"

def createContext (app : Application) (thread agent : Nat) (scope : String) : Application :=
  -- Create a context of an agent. Its Zipkin spans are recorded under the scope `scope`.
  match app.agents[agent]? with
  | none => app
  | some { config, tracer := .native .. } =>
      let drawn := app.drawMoment thread agent
      { drawn.1 with
        contexts := drawn.1.contexts ++ [.native agent (.begin config drawn.2)]
        log := drawn.1.log ++ [.contextCreated drawn.2.segmentId] }
  | some { config, tracer := .zipkin provider propagator } =>
      { app with
        contexts := app.contexts ++
          [.zipkin { provider, scope, propagator, correlation := { limits := config.limits } }] }

def createNative (app : Application) (thread id agent : Nat) (context : Native.Context)
    (role : Role) (name peer : String) : Application × Except TraceError SpanRef :=
  let created := context.createSpan (app.moment thread agent) role name peer
  (app.commit thread agent id context created.1, .ok (.native id created.2))

def startZipkin (app : Application) (state : Zipkin.State) (role : Role) (name peer : String) :
    Zipkin.State × Except TraceError Nat :=
  match role with
  | .entry => state.startEntry app.clock name
  | .inner => state.startInner app.clock name
  | .exit => state.startExit app.clock name peer

def createSpan (app : Application) (thread id : Nat) (role : Role) (name peer : String) :
    Application × Except TraceError SpanRef :=
  match app.contexts[id]? with
  | none => (app, .error .noRunningContext)
  | some (.native agent context) => app.createNative thread id agent context role name peer
  | some (.zipkin context) =>
      let started := app.startZipkin (app.zipkinState thread context) role name peer
      (app.commitZipkin thread id started.1, started.2.map .zipkin)

def activeSpan (app : Application) (thread id : Nat) : Except TraceError SpanRef :=
  match app.contexts[id]? with
  | none => .error .noActiveSpan
  | some (.native _ context) => context.activeSpan.map (.native id)
  | some (.zipkin context) => (app.zipkinState thread context).activeSpan.map .zipkin

def argument (id : Nat) : SpanRef → Native.SpanArgument
  | .native context key => if context = id then .own key else .other key.index
  | .zipkin _ => .foreign

def stopNative (app : Application) (id agent : Nat) (context : Native.Context) (span : SpanRef) :
    Application × Except TraceError Bool :=
  match context.stopSpan app.now (argument id span) with
  | .error error => (app, .error error)
  | .ok stopped =>
      ((app.setContext id (.native agent stopped.context)).report agent stopped.report,
        .ok stopped.idle)

def stopSpan (app : Application) (thread id : Nat) (span : SpanRef) :
    Application × Except TraceError Bool :=
  match app.contexts[id]? with
  | none => (app, .error .noRunningContext)
  | some (.native agent context) => app.stopNative id agent context span
  | some (.zipkin context) =>
      match span with
      | .native .. => (app, .error (.foreignSpan .zipkin))
      | .zipkin index =>
          let stopped := (app.zipkinState thread context).stopSpan app.clock index
          (app.commitZipkin thread id stopped.1, .ok stopped.2)

/-- Count a completion in a context, for any span of its backend. -/
def asyncStop (app : Application) (thread id : Nat) (span : SpanRef) :
    Application × Except TraceError Unit :=
  match app.contexts[id]? with
  | none => (app, .error .noRunningContext)
  | some (.native agent context) =>
      match context.asyncStop (argument id span) with
      | .error error => (app, .error error)
      | .ok (context', segment) =>
          (((app.setContext id (.native agent context')).note
            (context.asyncStopDiagnostics (argument id span))).report agent segment, .ok ())
  | some (.zipkin context) =>
      match span with
      | .native .. => (app, .error (.foreignSpan .zipkin))
      | .zipkin index =>
          (app.commitZipkin thread id
            ((app.zipkinState thread context).finishSpan app.clock index), .ok ())

def awaitCompletion (app : Application) (id : Nat) : Application :=
  -- Expect one more completion; Zipkin contexts do not count them.
  match app.contexts[id]? with
  | some (.native agent context) => app.setContext id (.native agent context.awaitCompletion)
  | some (.zipkin _) | none => app

def inject (app : Application) (thread id : Nat) (carrier : Carrier) :
    Except TraceError Carrier :=
  match app.contexts[id]? with
  | none => .error .noRunningContext
  | some (.native _ context) => context.inject app.now carrier
  | some (.zipkin context) => (app.zipkinState thread context).inject carrier

def extract (app : Application) (thread id : Nat) (carrier : Carrier) : Application × Carrier :=
  -- Continue a received call. The carrier learns which headers the backend reads.
  match app.contexts[id]? with
  | none => (app, carrier)
  | some (.native agent context) =>
      let extracted := context.extract (app.moment thread agent) carrier
      ((app.commit thread agent id context extracted).note
        (context.extractDiagnostics carrier), carrier)
  | some (.zipkin context) =>
      let state := app.zipkinState thread context
      let extracted := state.extract carrier
      ((app.commitZipkin thread id extracted.1).note (state.extractDiagnostics carrier),
        extracted.2)

def capture (app : Application) (thread id : Nat) : Except TraceError Snapshot :=
  match app.contexts[id]? with
  | none => .error .noRunningContext
  | some (.native _ context) => context.capture
  | some (.zipkin context) => (app.zipkinState thread context).capture

def resume (app : Application) (thread id : Nat) (snapshot : Snapshot) : Application :=
  match app.contexts[id]? with
  | none => app
  | some (.native agent context) =>
      let resumed := context.resume (app.moment thread agent) snapshot
      (app.commit thread agent id context resumed).note (context.resumeDiagnostics snapshot)
  | some (.zipkin context) =>
      let state := app.zipkinState thread context
      (app.commitZipkin thread id (state.resume snapshot)).note
        (state.resumeDiagnostics snapshot)

def traceIdText (app : Application) (thread id : Nat) : String :=
  (match app.contexts[id]? with
    | none => none
    | some (.native _ context) => context.traceId?
    | some (.zipkin context) => (app.zipkinState thread context).traceId?).getD noTraceId

def correlation (app : Application) (id : Nat) : Correlation :=
  match app.contexts[id]? with
  | none => {}
  | some (.native _ context) => context.correlation
  | some (.zipkin context) => context.correlation

/-- An entry span for a span that was started elsewhere; native contexts have none. -/
def adopt (app : Application) (thread id : Nat) (started : Telemetry.Context) :
    Option (Application × Except TraceError SpanRef) :=
  match app.contexts[id]? with
  | some (.zipkin context) =>
      some (match (app.zipkinState thread context).adopt started with
        | .error error => (app, .error error)
        | .ok (state, index) => (app.commitZipkin thread id state, .ok (.zipkin index)))
  | some (.native ..) | none => none

def runningCount? (app : Application) (id : Nat) : Option Nat :=
  match app.contexts[id]? with
  | some (.zipkin context) => some context.running.length
  | some (.native ..) | none => none

def describeIds : IdSource → String
  | .counting next => "IncrementIdGenerator(" ++ Numeral.text next ++ ")"
  | .random => "RandomIdGenerator \x7b _private: () \x7d"
  | .custom description _ => description

/-- A description of a context for logs. Reported segments are not shown. -/
def describe (app : Application) (id : Nat) : String :=
  match app.contexts[id]? with
  | none => ""
  | some (.native agent context) =>
      let ids := match app.tracer? agent with
        | some (.native ids _) => describeIds ids
        | _ => ""
      "TracingContext \x7b service_name: " ++ Quoted.quote context.service
        ++ ", reporter: NoopSegmentReporter \x7b _private: () \x7d, id_generator: "
        ++ ids ++ " \x7d"
  | some (.zipkin context) =>
      "ZipkinTracerContext \x7b tracer: Tracer \x7b name: " ++ Quoted.quote context.scope
        ++ ", version: None \x7d, running_spans: "
        ++ Numeral.text context.running.length ++ " \x7d"

end TraceAgent.Application
