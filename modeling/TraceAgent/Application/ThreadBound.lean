import TraceAgent.Application.Contexts

/-! Tracing through the context that the calling thread is bound to.

A thread is bound to a context by the first span of a trace, or by a trace that
it continues, and released when the last span stops. It runs one trace at a
time, whichever agent is asked.
-/

set_option autoImplicit false

namespace TraceAgent.Application

open Propagation
open Segment (Role)

def nameLimit : Nat := 150

def cutName (name : String) : String :=
  if name.toList.length ≤ nameLimit then name else String.ofList (name.toList.take nameLimit)

def expectedHeaders (app : Application) (agent : Nat) : List String :=
  match app.tracer? agent with
  | some (.zipkin ..) => Telemetry.B3.headers
  | some (.native ..) | none => []

def newCarrier (app : Application) (agent : Nat) : Carrier :=
  .expecting (app.expectedHeaders agent)

/-- The process with the context of a thread, and whether the context is new. -/
structure Obtained where
  app : Application
  id : Nat
  created : Bool

def obtain (app : Application) (thread agent : Nat) : Obtained :=
  match app.bound thread with
  | some id => ⟨app, id, false⟩
  | none =>
      let id := app.contexts.length
      ⟨(app.createContext thread agent Zipkin.scopeName).bind thread (some id), id, true⟩

/-- Release a context that was created for a span which did not start. -/
def releaseUnused (app : Application) (thread id : Nat) (created : Bool) : Application :=
  match app.activeSpan thread id with
  | .error _ => if created then app.bind thread none else app
  | .ok _ => app

def createOrRelease (obtained : Obtained) (thread : Nat) (role : Role) (name peer : String) :
    Application × Except TraceError SpanRef :=
  match obtained.app.createSpan thread obtained.id role name peer with
  | (app, .ok span) => (app, .ok span)
  | (app, .error error) =>
      (app.releaseUnused thread obtained.id obtained.created, .error error)

def enterEntry (app : Application) (thread agent : Nat) (name : String)
    (carrier : Option Carrier) : Application × Option Carrier × Except TraceError SpanRef :=
  let obtained := app.obtain thread agent
  match carrier with
  | none =>
      let created := createOrRelease obtained thread .entry (cutName name) ""
      (created.1, none, created.2)
  | some carrier =>
      let extracted := obtained.app.extract thread obtained.id carrier
      let created := createOrRelease { obtained with app := extracted.1 } thread .entry
        (cutName name) ""
      (created.1, some extracted.2, created.2)

def enterInner (app : Application) (thread agent : Nat) (name : String) :
    Application × Except TraceError SpanRef :=
  createOrRelease (app.obtain thread agent) thread .inner (cutName name) ""

/-- Stop a span of the bound context, and release the thread with the last one. -/
def finishSpan (app : Application) (thread id : Nat) (span : SpanRef) :
    Application × Except TraceError Unit :=
  match app.stopSpan thread id span with
  | (app, .ok true) => (app.bind thread none, .ok ())
  | (app, .ok false) => (app, .ok ())
  | (app, .error error) => (app, .error error)

/-- Start a span that calls a peer, and prepare the carrier if there is one. If the carrier
cannot be prepared nobody gets to see the span, so it is stopped again. -/
def enterExit (app : Application) (thread agent : Nat) (name peer : String)
    (carrier : Option Carrier) : Application × Option Carrier × Except TraceError SpanRef :=
  let obtained := app.obtain thread agent
  match createOrRelease obtained thread .exit (cutName name) peer with
  | (app, .error error) => (app, carrier, .error error)
  | (app, .ok span) =>
      match carrier with
      | none => (app, none, .ok span)
      | some carrier =>
          match app.inject thread obtained.id carrier with
          | .ok prepared => (app, some prepared, .ok span)
          | .error error =>
              ((app.finishSpan thread obtained.id span).1, some carrier, .error error)

def enter (app : Application) (thread agent : Nat) (role : Role) (name peer : String)
    (carrier : Option Carrier) : Application × Option Carrier × Except TraceError SpanRef :=
  -- Start a span of any role. A carrier is of no use to a span inside the process.
  match role with
  | .entry => app.enterEntry thread agent name carrier
  | .exit => app.enterExit thread agent name peer carrier
  | .inner =>
      let entered := app.enterInner thread agent name
      (entered.1, carrier, entered.2)

def running (app : Application) (thread : Nat) : Except TraceError Nat :=
  match app.bound thread with
  | some id => .ok id
  | none => .error .noRunningContext

def injectBound (app : Application) (thread : Nat) (carrier : Carrier) :
    Except TraceError Carrier := do
  app.inject thread (← app.running thread) carrier

def extractBound (app : Application) (thread : Nat) (carrier : Carrier) :
    Application × Carrier × Except TraceError Unit :=
  match app.running thread with
  | .error error => (app, carrier, .error error)
  | .ok id =>
      let extracted := app.extract thread id carrier
      (extracted.1, extracted.2, .ok ())

def captureBound (app : Application) (thread : Nat) : Except TraceError Snapshot := do
  app.capture thread (← app.running thread)

def isFromCurrent (app : Application) (thread : Nat) (snapshot : Snapshot) : Bool :=
  match snapshot.anchor, app.captureBound thread with
  | some anchor, .ok { anchor := some current, .. } => current.segmentId == anchor.segmentId
  | _, _ => false

/-- Continue a captured trace on a thread. A thread does not continue itself. -/
def resumeBound (app : Application) (thread agent : Nat) (snapshot : Snapshot) : Application :=
  if app.isFromCurrent thread snapshot then app.note [.snapshotFromCurrent]
  else
    let obtained := app.obtain thread agent
    obtained.app.resume thread obtained.id snapshot

def activeBound (app : Application) (thread : Nat) : Except TraceError SpanRef :=
  match app.bound thread with
  | some id => app.activeSpan thread id
  | none => .error .noActiveSpan

/-- Stop a span, which on the native backend has to be the active one. -/
def stopBound (app : Application) (thread : Nat) (span : SpanRef) :
    Application × Except TraceError Unit :=
  match app.running thread with
  | .error error => (app, .error error)
  | .ok id => app.finishSpan thread id span

def stopActive (app : Application) (thread : Nat) : Application × Except TraceError Unit :=
  match app.running thread with
  | .error error => (app, .error error)
  | .ok id =>
      match app.activeSpan thread id with
      | .error error => (app, .error error)
      | .ok span => app.finishSpan thread id span

def isActive (app : Application) (thread : Nat) : Bool := (app.bound thread).isSome

def boundTraceId (app : Application) (thread : Nat) : String :=
  match app.bound thread with
  | some id => app.traceIdText thread id
  | none => noTraceId

def boundCorrelation? (app : Application) (thread : Nat) : Option Correlation :=
  (app.bound thread).map app.correlation

end TraceAgent.Application
