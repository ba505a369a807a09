import TraceAgent.Application.ThreadBound

/-! The operations of tracing as data, so that a run is a list of them.

The same operations go to a context that the application holds itself, and to
the context that the calling thread is bound to.
-/

set_option autoImplicit false

namespace TraceAgent

open Propagation
open Segment (Role)

/-- Where an operation goes. On a thread that is not bound yet, the agent creates the context. -/
inductive Target where
  | context (id : Nat)
  | thread (agent : Nat)
  deriving DecidableEq, Repr

inductive Command where
  | create (role : Role) (name peer : String) (carrier : Option Carrier)
  | active
  | stop (span : Option SpanRef)
  | inject (carrier : Carrier)
  | extract (carrier : Carrier)
  | capture
  | resume (snapshot : Snapshot)
  | traceId
  | correlation

inductive Answer where
  | done
  | span (span : SpanRef)
  | stopped (idle : Bool)
  | snapshot (snapshot : Snapshot)
  | traceId (text : String)
  | correlation (correlation : Option Correlation)

structure Outcome where
  app : Application
  carrier : Option Carrier := none
  result : Except TraceError Answer

namespace Application

def stopIn (app : Application) (thread id : Nat) (span : Option SpanRef) :
    Application × Except TraceError Bool :=
  match span with
  | some span => app.stopSpan thread id span
  | none =>
      match app.activeSpan thread id with
      | .ok span => app.stopSpan thread id span
      | .error error => (app, .error error)

/-- A context leaves received and outgoing carriers to separate commands. -/
def performIn (app : Application) (thread id : Nat) : Command → Outcome
  | .create role name peer carrier =>
      let created := app.createSpan thread id role name peer
      { app := created.1, carrier, result := created.2.map .span }
  | .active => { app, result := (app.activeSpan thread id).map .span }
  | .stop span =>
      let stopped := app.stopIn thread id span
      { app := stopped.1, result := stopped.2.map .stopped }
  | .inject carrier =>
      match app.inject thread id carrier with
      | .ok prepared => { app, carrier := some prepared, result := .ok .done }
      | .error error => { app, carrier := some carrier, result := .error error }
  | .extract carrier =>
      let extracted := app.extract thread id carrier
      { app := extracted.1, carrier := some extracted.2, result := .ok .done }
  | .capture => { app, result := (app.capture thread id).map .snapshot }
  | .resume snapshot => { app := app.resume thread id snapshot, result := .ok .done }
  | .traceId => { app, result := .ok (.traceId (app.traceIdText thread id)) }
  | .correlation => { app, result := .ok (.correlation (some (app.correlation id))) }

def performBound (app : Application) (thread agent : Nat) : Command → Outcome
  | .create role name peer carrier =>
      match app.enter thread agent role name peer carrier with
      | (app, carrier, created) => { app, carrier, result := created.map .span }
  | .active => { app, result := (app.activeBound thread).map .span }
  | .stop span =>
      let stopped := match span with
        | some span => app.stopBound thread span
        | none => app.stopActive thread
      { app := stopped.1, result := stopped.2.map fun () => .done }
  | .inject carrier =>
      match app.injectBound thread carrier with
      | .ok prepared => { app, carrier := some prepared, result := .ok .done }
      | .error error => { app, carrier := some carrier, result := .error error }
  | .extract carrier =>
      match app.extractBound thread carrier with
      | (app, carrier, result) =>
          { app, carrier := some carrier, result := result.map fun () => .done }
  | .capture => { app, result := (app.captureBound thread).map .snapshot }
  | .resume snapshot => { app := app.resumeBound thread agent snapshot, result := .ok .done }
  | .traceId => { app, result := .ok (.traceId (app.boundTraceId thread)) }
  | .correlation => { app, result := .ok (.correlation (app.boundCorrelation? thread)) }

def perform (app : Application) (thread : Nat) : Target → Command → Outcome
  | .context id => app.performIn thread id
  | .thread agent => app.performBound thread agent

end Application

end TraceAgent
