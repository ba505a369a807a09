import TraceAgent.Native.Context
import TraceAgent.Zipkin.Context

/-! A traced process: its agents, the tracing contexts, and what each thread is bound to.

Contexts and spans are named by their places in the process. A native context
stays alive while the application holds it, a thread is bound to it, or one of
its spans awaits a completion.
-/

set_option autoImplicit false

namespace TraceAgent

open Propagation

/-- Where the ids of native segments come from. An application may bring a generator of its own,
which is known by the ids that it will give. -/
inductive IdSource where
  | counting (next : Nat)
  | random
  | custom (description : String) (ids : Nat → String)

inductive Reporter where
  | memory (segments : List Segment)
  | discard
  deriving DecidableEq, Repr

inductive Tracer where
  | native (ids : IdSource) (reporter : Reporter)
  | zipkin (provider : Nat) (propagator : Telemetry.Propagator)

structure Agent where
  config : AgentConfig
  tracer : Tracer

inductive TracingContext where
  | native (agent : Nat) (context : Native.Context)
  | zipkin (context : Zipkin.Context)

inductive SpanRef where
  | native (context : Nat) (key : Native.SpanKey)
  | zipkin (index : Nat)
  deriving DecidableEq, Repr

/-- The context that a thread is bound to, and the scopes that are open on it. -/
structure Thread where
  bound : Option Nat := none
  scopes : Zipkin.Scopes

/-- The stack is what a thread has when it starts. -/
structure Application where
  clock : Int
  stack : Telemetry.ContextStack
  agents : List Agent := []
  contexts : List TracingContext := []
  held : List Nat := []
  threads : List (Nat × Thread) := []
  zipkinSpans : List Zipkin.Span := []
  recorder : Telemetry.Recorder := {}
  randomIds : RandomIds
  log : List Diagnostic := []

namespace Application

def begin (clock : Int) (seed : BitVec 128) (stack : Telemetry.ContextStack := .holding []) :
    Application where
  clock := clock
  stack := stack
  randomIds := .seeded seed

/-- Milliseconds since the epoch; a clock before it reads zero. -/
def now (app : Application) : Int := max 0 app.clock

def note (app : Application) (diagnostics : List Diagnostic) : Application :=
  { app with log := app.log ++ diagnostics }

def thread (app : Application) (thread : Nat) : Thread :=
  (app.threads.lookup thread).getD { scopes := { opened := [], stack := app.stack } }

def setThread (app : Application) (thread : Nat) (state : Thread) : Application :=
  { app with
    threads := (thread, state) :: app.threads.filter fun entry => entry.1 != thread }

def endThread (app : Application) (thread : Nat) : Application :=
  { app with
    threads := app.threads.filter fun entry => entry.1 != thread
    randomIds := app.randomIds.forget thread }

def bound (app : Application) (thread : Nat) : Option Nat := (app.thread thread).bound

def bind (app : Application) (thread : Nat) (context : Option Nat) : Application :=
  app.setThread thread { app.thread thread with bound := context }

def setContext (app : Application) (id : Nat) (context : TracingContext) : Application :=
  { app with contexts := app.contexts.set id context }

def hold (app : Application) (id : Nat) : Application := { app with held := id :: app.held }

def release (app : Application) (id : Nat) : Application :=
  { app with held := app.held.erase id }

def isAlive (app : Application) (id : Nat) : Bool :=
  app.held.contains id
    || app.threads.any (fun entry => entry.2.bound == some id)
    || (match app.contexts[id]? with
        | some (.native _ context) => context.hasAwaited
        | some (.zipkin _) | none => false)

def tracer? (app : Application) (agent : Nat) : Option Tracer :=
  (app.agents[agent]?).map (·.tracer)

def setTracer (app : Application) (agent : Nat) (tracer : Tracer) : Application :=
  { app with agents := app.agents.modify agent ({ · with tracer }) }

def drawId (app : Application) (thread agent : Nat) : Application × String :=
  match app.tracer? agent with
  | some (.native (.counting next) reporter) =>
      (app.setTracer agent (.native (.counting (next + 1)) reporter), Numeral.text next)
  | some (.native .random _) =>
      let drawn := app.randomIds.generate thread app.now
      ({ app with randomIds := drawn.1 }, drawn.2)
  | some (.native (.custom description ids) reporter) =>
      (app.setTracer agent (.native (.custom description fun n => ids (n + 1)) reporter), ids 0)
  | some (.zipkin ..) | none => (app, "")

def drawMoment (app : Application) (thread agent : Nat) : Application × Native.Moment :=
  -- Draw the ids of a new segment, its own first.
  let segment := app.drawId thread agent
  let trace := segment.1.drawId thread agent
  (trace.1, { now := app.now, segmentId := segment.2, traceId := trace.2 })

def moment (app : Application) (thread agent : Nat) : Native.Moment :=
  (app.drawMoment thread agent).2

/-- Store a native context after an operation. The ids of a moment are used up if the operation
opened a segment, and stay for a later one otherwise. -/
def commit (app : Application) (thread agent id : Nat) (before after : Native.Context) : Application :=
  let app := if before.current.isNone && after.current.isSome then
      (app.drawMoment thread agent).1
    else app
  app.setContext id (.native agent after)

def collect (app : Application) (agent : Nat) (segment : Segment) : Application :=
  match app.tracer? agent with
  | some (.native ids (.memory segments)) =>
      app.setTracer agent (.native ids (.memory (segments ++ [segment])))
  | some (.native _ .discard) => app.note [.segmentDropped segment.id]
  | some (.zipkin ..) | none => app

def report (app : Application) (agent : Nat) (segment : Option Segment) : Application :=
  match segment with
  | none => app
  | some segment =>
      (app.note [.segmentFinished segment.id segment.spans.length]).collect agent segment

def zipkinState (app : Application) (thread : Nat) (context : Zipkin.Context) : Zipkin.State where
  context := context
  scopes := (app.thread thread).scopes
  spans := app.zipkinSpans
  recorder := app.recorder

def commitZipkin (app : Application) (thread id : Nat) (state : Zipkin.State) : Application :=
  let app := app.setContext id (.zipkin state.context)
  { app.setThread thread { app.thread thread with scopes := state.scopes } with
    zipkinSpans := state.spans
    recorder := state.recorder }

end Application

end TraceAgent
