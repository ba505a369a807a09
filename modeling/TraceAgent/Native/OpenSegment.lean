import TraceAgent.Native.Span
import TraceAgent.Segment.Basic

/-! A segment while its spans run.

Spans are numbered in the order of their creation. The active ones form a
stack; a span that is left last goes behind the finished ones.
-/

set_option autoImplicit false

namespace TraceAgent.Native

open Segment Propagation

/-- What an operation reads from its surroundings: the time, and the ids for a segment that it
may have to open. One reading of the clock stands for all that an operation takes: a segment that
is opened, its span and the flags that are applied all get the same time. -/
structure Moment where
  now : Int
  segmentId : String
  traceId : String
  deriving DecidableEq, Repr

/-- A parent that became known before the span that continues it was created. -/
structure Pending where
  parent : Parent
  entryOnly : Bool
  deriving DecidableEq, Repr

def Pending.suits (pending : Pending) (role : Role) : Bool := !pending.entryOnly || role == .entry

structure OpenSegment where
  segment : Segment
  spans : List Span := []
  active : List Nat := []
  finished : List Nat := []
  endpoint : Option Nat := none
  pending : Option Pending := none
  deriving DecidableEq, Repr

namespace OpenSegment

def begin (moment : Moment) : OpenSegment where
  segment :=
    { id := moment.segmentId, traceId := .begun moment.traceId, created := moment.now }

def top? (opened : OpenSegment) : Option (Nat × Span) :=
  match opened.active with
  | [] => none
  | index :: _ => (opened.spans[index]?).map fun span => (index, span)

def modifySpan (opened : OpenSegment) (index : Nat) (change : Span → Span) : OpenSegment :=
  { opened with spans := opened.spans.modify index change }

/-- An entry point inside an entry span, or a call inside an exit span, shares the active span. -/
def shared? (opened : OpenSegment) (role : Role) : Option Nat :=
  match opened.top? with
  | some (index, span) => if span.role = role ∧ role ≠ .inner then some index else none
  | none => none

def reenter (opened : OpenSegment) (index : Nat) (role : Role) (name : String) : OpenSegment :=
  opened.modifySpan index fun span =>
    if role = .entry then span.reenterAs name else span.reenter

/-- The pending parent, if a new span of this role takes it. -/
def taken? (opened : OpenSegment) (role : Role) : Option Pending :=
  opened.pending.filter (·.suits role)

def isEntryAt (opened : OpenSegment) (index : Nat) : Bool :=
  match opened.spans[index]? with
  | some span => span.isEntry
  | none => false

/-- The first span stands for the segment until the first entry span does. -/
def endpointWith (opened : OpenSegment) (role : Role) : Option Nat :=
  match opened.endpoint with
  | none => some opened.spans.length
  | some index =>
      if !opened.isEntryAt index && role == .entry then some opened.spans.length else some index

def newSpan (opened : OpenSegment) (now : Int) (extension : Extension) (role : Role)
    (name peer : String) : Span :=
  let span : Span := { role, parent := opened.active.head?, name, peer, start := now }
  match opened.taken? role with
  | some pending => span.continueFrom pending.parent extension now
  | none => span

def push (opened : OpenSegment) (now : Int) (extension : Extension) (role : Role)
    (name peer : String) : OpenSegment :=
  { opened with
    spans := opened.spans ++ [opened.newSpan now extension role name peer]
    active := opened.spans.length :: opened.active
    endpoint := opened.endpointWith role
    pending := if (opened.taken? role).isSome then none else opened.pending }

def enter (opened : OpenSegment) (now : Int) (extension : Extension) (role : Role)
    (name peer : String) : OpenSegment × Nat :=
  match opened.shared? role with
  | some index => (opened.reenter index role name, index)
  | none => (opened.push now extension role name peer, opened.spans.length)

/-- Leave the active span `index`, and finish it with its last entrance. -/
def leave (opened : OpenSegment) (now : Int) (index : Nat) : OpenSegment :=
  let opened := opened.modifySpan index (·.leave now)
  match opened.spans[index]? with
  | some span =>
      if span.isLeft then
        { opened with
          active := opened.active.tail
          finished := opened.finished ++ [index] }
      else opened
  | none => opened

def endpointName (opened : OpenSegment) : String :=
  match opened.endpoint.bind (opened.spans[·]?) with
  | some span => span.name
  | none => ""

/-- Join the trace of a parent. An active span that may continue it does so at once; otherwise
the parent waits for a span. -/
def link (opened : OpenSegment) (now : Int) (extension : Extension) (pending : Pending) :
    OpenSegment :=
  let opened := { opened with segment := opened.segment.link pending.parent }
  match opened.top? with
  | some (index, span) =>
      if pending.suits span.role then
        opened.modifySpan index (·.continueFrom pending.parent extension now)
      else { opened with pending := some pending }
  | none => { opened with pending := some pending }

def records (opened : OpenSegment) : List SpanRecord :=
  opened.finished.filterMap fun index => (opened.spans[index]?).map (·.record index)

/-- The segment as it is reported, its spans in the order in which they finished. -/
def close (opened : OpenSegment) : Segment :=
  { opened.segment with spans := opened.records }

end OpenSegment

end TraceAgent.Native
