import TraceAgent.Telemetry.Provider

/-! A provider that draws ids from given sequences, samples, and exports spans as they end.

Only sampled spans are recorded; the others have an identity and nothing else.
-/

set_option autoImplicit false

namespace TraceAgent.Telemetry

/-- A status gives way only to a greater one: unset is least, errors are ordered by their
descriptions. -/
def Status.raise : Status → Status → Status
  | unset, status => status
  | status, unset => status
  | error old, error new => if old < new then error new else error old

/-- At most this many attributes, and as many events, are kept of a span. -/
def keptItems : Nat := 128

namespace Recording

def addAttribute (recording : Recording) (key value : String) : Recording :=
  if recording.attributes.length < keptItems then
    { recording with attributes := recording.attributes ++ [(key, value)] }
  else { recording with droppedAttributes := recording.droppedAttributes + 1 }

def addEvent (recording : Recording) (event : Event) : Recording :=
  if recording.events.length < keptItems then
    { recording with events := recording.events ++ [event] }
  else { recording with droppedEvents := recording.droppedEvents + 1 }

def change (recording : Recording) (change : Change) : Recording :=
  -- What has ended stays as it is.
  if recording.ended then recording
  else
    match change with
    | .attribute key value => recording.addAttribute key value
    | .exception message now =>
        recording.addEvent ⟨"exception", now, [("exception.message", message)]⟩
    | .failed description =>
        { recording with status := recording.status.raise (.error description) }
    | .rename name => { recording with name }

end Recording

inductive Sampler where
  | parentBased
  | alwaysOn
  | alwaysOff
  deriving DecidableEq, Repr, Inhabited

/-- A trace is sampled from its first span on unless the sampler says otherwise for every span. -/
def Sampler.samples (sampler : Sampler) (parent : Context) : Bool :=
  match sampler, parent.span with
  | .alwaysOn, _ => true
  | .alwaysOff, _ => false
  | .parentBased, some span => span.identity.isSampled
  | .parentBased, none => true

structure Sdk where
  sampler : Sampler := .parentBased
  traceIds : Nat → BitVec 128
  spanIds : Nat → BitVec 64
  drawnTraces : Nat := 0
  drawnSpans : Nat := 0
  isShutDown : Bool := false
  recordings : List (Option Recording) := []
  exports : List Export := []

namespace Sdk

def traceIdUnder (sdk : Sdk) (parent : Context) : BitVec 128 :=
  match parent.span with
  | some span => span.identity.traceId
  | none => sdk.traceIds sdk.drawnTraces

def identityUnder (sdk : Sdk) (parent : Context) : Identity :=
  if sdk.isShutDown then .none
  else
    { traceId := sdk.traceIdUnder parent
      spanId := sdk.spanIds sdk.drawnSpans
      flags := if sdk.sampler.samples parent then parent.identity.flags ||| 1 else 0
      remote := false }

def recordingOf? (sdk : Sdk) (start : Start) : Option Recording :=
  if sdk.isShutDown || !sdk.sampler.samples start.parent then none
  else some
    { scope := start.scope
      identity := sdk.identityUnder start.parent
      parentId := start.parent.identity.spanId
      parentRemote := start.parent.identity.isValid && start.parent.identity.remote
      kind := start.kind
      name := start.name
      start := start.now }

def begin (sdk : Sdk) (start : Start) : Sdk :=
  -- After shutdown no ids are drawn.
  let drawn : Nat := if sdk.isShutDown then 0 else 1
  { sdk with
    drawnTraces := sdk.drawnTraces + (if start.parent.span.isNone then drawn else 0)
    drawnSpans := sdk.drawnSpans + drawn
    recordings := sdk.recordings ++ [sdk.recordingOf? start] }

def recorded? (sdk : Sdk) (number : Nat) : Option Recording := (sdk.recordings[number]?).join

def finish (sdk : Sdk) (number : Nat) (now : Int) : Sdk :=
  -- End a span: it is exported as it is now. Ending it again has no effect.
  match sdk.recorded? number with
  | none => sdk
  | some recording =>
      if recording.ended then sdk
      else
        { sdk with
          recordings := sdk.recordings.set number (some { recording with ended := true })
          exports :=
            if sdk.isShutDown then sdk.exports else sdk.exports ++ [⟨recording, now⟩] }

def step (sdk : Sdk) : Call → Sdk
  | .start start => sdk.begin start
  | .change number change =>
      { sdk with recordings := sdk.recordings.modify number (·.map (·.change change)) }
  | .finish number now | .drop number now => sdk.finish number now
  | .shutDown => { sdk with isShutDown := true }

def view (sdk : Sdk) : View where
  identity start := sdk.identityUnder start.parent
  recorded := sdk.recorded?
  exports := sdk.exports
  isOpen := !sdk.isShutDown

def provider (sdk : Sdk) : Provider where
  started := sdk.recordings.length
  viewAfter calls := (calls.foldl step sdk).view

end Sdk

namespace Provider

def counting (sampler : Sampler) (traceStart : BitVec 128) (spanStart : BitVec 64) (step : Int) :
    Provider :=
  Sdk.provider
    { sampler
      traceIds n := traceStart + BitVec.ofInt 128 (n * step)
      spanIds n := spanStart + BitVec.ofInt 64 (n * step) }

def random (draws : Nat → BitVec 128) : Provider :=
  Sdk.provider
    { traceIds n := draws (2 * n)
      spanIds n := (draws (2 * n + 1)).setWidth 64 }

end Provider

end TraceAgent.Telemetry
