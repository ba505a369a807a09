import TraceAgent.Application.Basic
import TraceAgent.Telemetry.Sdk
import TraceAgent.Text.LowerCase

/-! Setting up the agents of a process, and what reaches their collectors. -/

set_option autoImplicit false

namespace TraceAgent.Application

def addNative (app : Application) (config : AgentConfig) (ids : IdSource) (reporter : Reporter) :
    Application :=
  { app with agents := app.agents ++ [{ config, tracer := .native ids reporter }] }

def addZipkin (app : Application) (config : AgentConfig) (propagator : Telemetry.Propagator)
    (provider : Telemetry.Provider) : Application :=
  { app with
    agents := app.agents ++
      [{ config, tracer := .zipkin app.recorder.providers.length propagator }]
    recorder := { providers := app.recorder.providers ++ [provider] } }

/-- Add an agent with the tracer that its settings select. -/
def addSelected (app : Application) (config : AgentConfig)
    (propagator : Telemetry.Propagator := Telemetry.B3.propagator .multi)
    (provider : Telemetry.Provider := .random app.randomIds.draws) : Application :=
  let noted := app.note [.backendSelected config.backend config.service]
  match config.backend with
  | .native => noted.addNative config .random (.memory [])
  | .zipkin => noted.addZipkin config propagator provider

/-- The service name under which telemetry is exported; native segments carry the name as it
is configured. -/
def telemetryService (config : AgentConfig) : String :=
  match config.backend with
  | .zipkin => LowerCase.lower config.service
  | .native => ""

def provider? (app : Application) (agent : Nat) : Option Nat :=
  match app.tracer? agent with
  | some (.zipkin provider _) => some provider
  | some (.native ..) | none => none

def reportedSegments (app : Application) (agent : Nat) : List Segment :=
  match app.tracer? agent with
  | some (.native _ (.memory segments)) => segments
  | some (.native _ .discard) | some (.zipkin ..) | none => []

def exportedSpans (app : Application) (agent : Nat) : List Telemetry.Export :=
  match app.provider? agent with
  | some provider => app.recorder.exports provider
  | none => []

def clearReports (app : Application) (agent : Nat) : Application :=
  match app.tracer? agent with
  | some (.native ids (.memory _)) => app.setTracer agent (.native ids (.memory []))
  | some (.native _ .discard) | some (.zipkin ..) | none => app

def shutDown (app : Application) (agent : Nat) : Option (Application × Bool) :=
  (app.provider? agent).map fun provider =>
    let shut := app.recorder.shutDown provider
    ({ app with recorder := shut.1 }, shut.2)

/-- Start a span past the contexts, as an application may do with the telemetry of an agent. -/
def startDetached (app : Application) (agent : Nat) (scope name : String)
    (parent : Telemetry.Context) : Option (Application × Telemetry.Context) :=
  (app.provider? agent).map fun provider =>
    let started := app.recorder.start provider scope app.clock .internal name parent
    ({ app with recorder := started.1 }, ⟨some started.2⟩)

end TraceAgent.Application
