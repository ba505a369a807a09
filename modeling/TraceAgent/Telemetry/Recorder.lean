import TraceAgent.Telemetry.Provider

/-! The providers of a process, and the calls about a span that go to its provider. -/

set_option autoImplicit false

namespace TraceAgent.Telemetry

structure Recorder where
  providers : List Provider := []

namespace Recorder

def start (recorder : Recorder) (index : Nat) (scope : String) (now : Int) (kind : Kind)
    (name : String) (parent : Context) : Recorder × Span :=
  match recorder.providers[index]? with
  | none => (recorder, ⟨.none, none⟩)
  | some provider =>
      let start : Start := { scope, now, kind, name, parent }
      ({ providers := recorder.providers.set index (provider.after (.start start)) },
        ⟨provider.view.identity start, some ⟨index, provider.started⟩⟩)

/-- Pass a call about a span on. Nothing is to be done for a span of another process. -/
def call (recorder : Recorder) (span : Span) (about : Nat → Call) : Recorder :=
  match span.handle with
  | none => recorder
  | some handle =>
      { providers := recorder.providers.modify handle.provider (·.after (about handle.number)) }

def change (recorder : Recorder) (span : Span) (change : Change) : Recorder :=
  recorder.call span (.change · change)

def finish (recorder : Recorder) (span : Span) (now : Int) : Recorder :=
  recorder.call span (.finish · now)

def drop (recorder : Recorder) (span : Span) (now : Int) : Recorder :=
  recorder.call span (.drop · now)

def shutDown (recorder : Recorder) (index : Nat) : Recorder × Bool :=
  ({ providers := recorder.providers.modify index (·.after .shutDown) },
    match recorder.providers[index]? with
    | some provider => provider.view.isOpen
    | none => false)

def recorded? (recorder : Recorder) (span : Span) : Option Recording :=
  span.handle.bind fun handle =>
    (recorder.providers[handle.provider]?).bind (·.view.recorded handle.number)

def exports (recorder : Recorder) (index : Nat) : List Export :=
  match recorder.providers[index]? with
  | some provider => provider.view.exports
  | none => []

end Recorder

end TraceAgent.Telemetry
