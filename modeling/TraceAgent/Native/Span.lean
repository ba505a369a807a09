import TraceAgent.Segment.Remark

/-! Spans of the native backend.

A span can be entered again while it is active: a nested entry point takes over
the entry span, a nested call shares the exit span. It is finished when every
entrance has been left, and if it completes asynchronously, when that is
reported too.
-/

set_option autoImplicit false

namespace TraceAgent.Native

open Segment Propagation

/-- When a span ends: as it is stopped, or as its asynchronous work completes. -/
inductive Completion where
  | onStop
  | awaited
  | completed
  deriving DecidableEq, Repr, Inhabited

structure Span where
  role : Role
  parent : Option Nat
  name : String
  peer : String
  layer : Layer := .unknown
  component : Component := .unknown
  isError : Bool := false
  tags : List (String × String) := []
  logs : List LogEntry := []
  parents : List Parent := []
  start : Int
  finish : Int := 0
  skipAnalysis : Bool := false
  depth : Nat := 1
  completion : Completion := .onStop
  deriving DecidableEq, Repr, Inhabited

namespace Span

def isEntry (span : Span) : Bool := span.role == .entry

def isAwaited (span : Span) : Bool := span.completion == .awaited

/-- The innermost entry point describes the request best, so it renames the span and earlier
remarks are dropped. -/
def reenterAs (span : Span) (name : String) : Span :=
  { span with
    depth := span.depth + 1
    name := name
    component := .unknown
    layer := .unknown
    tags := []
    logs := [] }

def reenter (span : Span) : Span := { span with depth := span.depth + 1 }

/-- Leave one entrance. With the last one the span ends, unless it completes asynchronously. -/
def leave (span : Span) (now : Int) : Span :=
  if 1 < span.depth then { span with depth := span.depth - 1 }
  else { span with
    depth := 0
    finish := if span.completion = .onStop then now else span.finish }

def isLeft (span : Span) : Bool := span.depth == 0

def addParent (span : Span) (parent : Parent) : Span :=
  { span with parents := Parent.addTo span.parents parent }

def addTag (span : Span) (key value : String) : Span :=
  { span with tags := span.tags ++ [(key, value)] }

def applyFlags (span : Span) (extension : Extension) (now : Int) : Span :=
  let marked := if extension.skipAnalysis then { span with skipAnalysis := true } else span
  match extension.latency? now with
  | some latency => marked.addTag Extension.latencyTag (Numeral.text latency)
  | none => marked

def continueFrom (span : Span) (parent : Parent) (extension : Extension) (now : Int) : Span :=
  (span.addParent parent).applyFlags extension now

def failureLog (failure : Failure) (now : Int) : LogEntry where
  time := now
  data := [("event", "error"), ("error.kind", failure.kind), ("message", failure.message)]

def annotate (span : Span) (now : Int) : Remark → Span
  | .component component => { span with component }
  | .layer layer => { span with layer }
  | .tag key value => span.addTag key value
  | .failure failure =>
      { span with isError := true, logs := span.logs ++ [failureLog failure now] }
  | .event time fields => { span with logs := span.logs ++ [⟨time, fields⟩] }
  | .failed => { span with isError := true }
  | .rename name => { span with name }
  | .peer peer => { span with peer }
  | .startNow => { span with start := now }
  | .startAt time => { span with start := time }
  | .parent parent => span.addParent parent
  | .skipAnalysis => { span with skipAnalysis := true }

def parentId (span : Span) : Int :=
  -- The parent id of a span without a parent is -1.
  match span.parent with
  | some parent => parent
  | none => -1

def record (span : Span) (id : Nat) : SpanRecord where
  id := id
  parentId := span.parentId
  start := span.start
  finish := span.finish
  parents := span.parents
  name := span.name
  peer := span.peer
  role := span.role
  layer := span.layer
  componentId := span.component.id
  isError := span.isError
  tags := span.tags
  logs := span.logs
  skipAnalysis := span.skipAnalysis

end Span

end TraceAgent.Native
