import TraceAgent.Proofs.Native.Run

/-! The operations of a native context as sequences of writes.

The state lies in separate fields and in the cells of the spans, and an operation
writes one after the other. Nothing is undone: an operation that fails keeps what
it wrote before. The fields are independent of each other, so there are states
here that no context has, such as active spans without a segment, and branches
for them.
-/

set_option autoImplicit false

namespace TraceAgent.Native

open Segment Propagation

/-- A span where everyone who holds it finds it. A span that is prepared for asynchronous
completion keeps its context alive until then. -/
structure Cell where
  span : Span
  holdsContext : Bool := false
  deriving DecidableEq, Repr

structure Store where
  service : String
  instanceName : String
  segment : Option Segment
  active : List SpanKey := []
  finished : List SpanKey := []
  nextId : Nat := 0
  endpoint : Option SpanKey := none
  pending : Option Pending := none
  correlation : Correlation
  extension : Extension := {}
  outstanding : Nat := 0
  cells : SpanKey → Option Cell := fun _ => none
  reports : List Segment := []

namespace Store

def begin (config : AgentConfig) (moment : Moment) : Store where
  service := config.service
  instanceName := config.instanceName
  segment := some (OpenSegment.begin moment).segment
  correlation := { limits := config.limits }

def ensureSegment (store : Store) (moment : Moment) : Store :=
  match store.segment with
  | some _ => store
  | none =>
      { store with
        segment := some (OpenSegment.begin moment).segment
        nextId := 0
        endpoint := none
        pending := none }

def setCell (store : Store) (key : SpanKey) (cell : Cell) : Store :=
  { store with cells := fun other => if key = other then some cell else store.cells other }

def edit (store : Store) (key : SpanKey) (change : Span → Span) : Store :=
  match store.cells key with
  | some cell => store.setCell key { cell with span := change cell.span }
  | none => store

def top? (store : Store) : Option (SpanKey × Cell) :=
  store.active.head?.bind fun key => (store.cells key).map fun cell => (key, cell)

def addParent (store : Store) (key : SpanKey) (parent : Parent) : Store × Except TraceError Unit :=
  -- Some spans refuse a parent, but those of this backend take it.
  (store.edit key (·.addParent parent), .ok ())

def continueOn (store : Store) (now : Int) (key : SpanKey) (parent : Parent) :
    Store × Except TraceError Unit :=
  match store.addParent key parent with
  | (added, .ok ()) => (added.edit key (·.applyFlags added.extension now), .ok ())
  | failed => failed

def attach (store : Store) (now : Int) (role : Role) (key : SpanKey) :
    Store × Except TraceError Unit :=
  -- Continue the pending parent on a new span of a role that takes it.
  match store.pending.filter (·.suits role) with
  | some pending => { store with pending := none }.continueOn now key pending.parent
  | none => (store, .ok ())

def shared? (store : Store) (role : Role) : Option SpanKey :=
  match store.top? with
  | some (key, cell) => if cell.span.role = role ∧ role ≠ .inner then some key else none
  | none => none

def isEntryAt (store : Store) (key : SpanKey) : Bool :=
  (store.cells key).any fun cell => cell.span.isEntry

def endpointWith (store : Store) (role : Role) (key : SpanKey) : Option SpanKey :=
  match store.endpoint with
  | none => some key
  | some current => if !store.isEntryAt current && role == .entry then some key else some current

def nextKey (store : Store) : SpanKey := ⟨store.reports.length, store.nextId⟩

def allocate (store : Store) (now : Int) (role : Role) (name peer : String) : Store :=
  let parent := store.active.head?.map SpanKey.index
  { store.setCell store.nextKey { span := { role, parent, name, peer, start := now } } with
    nextId := store.nextId + 1 }

def createSpan (store : Store) (moment : Moment) (role : Role) (name peer : String) :
    Store × Except TraceError SpanKey :=
  let opened := store.ensureSegment moment
  match opened.shared? role with
  | some key =>
      (opened.edit key fun span => if role = .entry then span.reenterAs name else span.reenter,
        .ok key)
  | none =>
      let key := opened.nextKey
      match (opened.allocate moment.now role name peer).attach moment.now role key with
      | (attached, .ok ()) =>
          ({ attached with
              endpoint := attached.endpointWith role key
              active := key :: attached.active },
            .ok key)
      | (failed, .error error) => (failed, .error error)

def activeSpan (store : Store) : Except TraceError SpanKey :=
  match store.active with
  | key :: _ => .ok key
  | [] => .error .noActiveSpan

def endpointName (store : Store) : String :=
  match store.endpoint.bind store.cells with
  | some cell => cell.span.name
  | none => ""

def inject (store : Store) (now : Int) (carrier : Carrier) : Carrier × Except TraceError Unit :=
  match store.top? with
  | none => (carrier, .error .noActiveSpan)
  | some (key, cell) =>
      if cell.span.role ≠ .exit then (carrier, .error .injectOutsideExit)
      else if cell.span.peer = "" then (carrier, .error .missingPeer)
      else match store.segment with
      | none => (carrier, .error .noRunningContext)
      | some segment =>
          let named := { carrier with
            origin :=
              { traceId := segment.traceId.id
                segmentId := segment.id
                spanId := key.index
                service := store.service
                instanceName := store.instanceName
                endpoint := store.endpointName
                address := cell.span.peer } }
          let loaded := { named with correlation := store.correlation }
          ({ loaded with extension := store.extension.sentNow now }, .ok ())

def offer (store : Store) (now : Int) (pending : Pending) : Store × Except TraceError Unit :=
  match store.top? with
  | some (key, cell) =>
      if pending.suits cell.span.role then store.continueOn now key pending.parent
      else ({ store with pending := some pending }, .ok ())
  | none => ({ store with pending := some pending }, .ok ())

def join (store : Store) (moment : Moment) (pending : Pending) (correlation : Correlation)
    (extension : Extension) : Store × Except TraceError Unit :=
  let opened := store.ensureSegment moment
  let linked := { opened with segment := opened.segment.map (Segment.link · pending.parent) }
  let joined :=
    { linked with correlation := linked.correlation.merge correlation, extension := extension }
  joined.offer moment.now pending

def extract (store : Store) (moment : Moment) (carrier : Carrier) :
    Store × Except TraceError Unit :=
  if carrier.isValid then
    store.join moment ⟨.ofCarrier carrier, true⟩ carrier.correlation carrier.extension
  else (store, .ok ())

def capture (store : Store) : Except TraceError Snapshot :=
  match store.top? with
  | none => .error .noActiveSpan
  | some (key, _) =>
      match store.segment with
      | none => .error .noRunningContext
      | some segment => .ok
          { anchor := some
              { traceId := segment.traceId
                segmentId := segment.id
                spanId := key.index
                endpoint := store.endpointName }
            correlation := store.correlation
            extension := store.extension }

def resume (store : Store) (moment : Moment) (snapshot : Snapshot) :
    Store × Except TraceError Unit :=
  match snapshot.anchor with
  | none => (store, .ok ())
  | some anchor =>
      if anchor.isValid then
        store.join moment ⟨.ofAnchor anchor store.service store.instanceName, false⟩
          snapshot.correlation snapshot.extension
      else (store, .ok ())

def records (store : Store) : List SpanRecord :=
  store.finished.filterMap fun key => (store.cells key).map (·.span.record key.index)

def settle (store : Store) : Store :=
  -- Report the segment if nothing in it is left to wait for.
  if store.active ≠ [] ∨ store.outstanding ≠ 0 then store
  else match store.segment with
  | none => store
  | some segment =>
      { store with
        segment := none
        finished := []
        endpoint := none
        pending := none
        reports := store.reports ++ [store.records.foldl Segment.archive segment] }

def leave (store : Store) (now : Int) (key : SpanKey) : Store :=
  -- Leave the active span. With its last entrance it is finished.
  let left := store.edit key (·.leave now)
  if (left.cells key).any (·.span.isLeft) then
    { left with active := left.active.tail, finished := left.finished ++ [key] }
  else left

def stopSpan (store : Store) (now : Int) (span : SpanArgument) : Store × Except TraceError Bool :=
  match span with
  | .foreign => (store, .error (.foreignSpan .native))
  | span =>
      match store.active with
      | [] => (store, .error .noActiveSpan)
      | key :: _ =>
          if span = .own key then
            let left := store.leave now key
            (left.settle, .ok left.active.isEmpty)
          else (store, .error (.unexpectedSpan span.spanId))

def awaitCompletion (store : Store) : Store := { store with outstanding := store.outstanding + 1 }

def asyncStop (store : Store) (span : SpanArgument) : Store × Except TraceError Unit :=
  match span with
  | .foreign => (store, .error (.foreignSpan .native))
  | _ => ({ store with outstanding := store.outstanding - 1 }.settle, .ok ())

/-- Let a span outlive its stop, and let it keep the context alive. The context of a span may
be gone already. -/
def prepareAsync (store : Store) (alive : Bool) (key : SpanKey) : Store × Except TraceError Unit :=
  if alive then
    match store.cells key with
    | none => (store, .error .noRunningContext)
    | some cell =>
        match cell.span.completion with
        | .onStop =>
            ((store.setCell key ⟨cell.span.awaiting, true⟩).awaitCompletion, .ok ())
        | .awaited | .completed => (store, .error .asyncPreparedTwice)
  else (store, .error .noRunningContext)

/-- Complete a span that was prepared for it. The span ends before its context is looked for. -/
def finishAsync (store : Store) (now : Int) (key : SpanKey) : Store × Except TraceError Unit :=
  match store.cells key with
  | none => (store, .error .noRunningContext)
  | some cell =>
      match cell.span.completion with
      | .onStop => (store, .error .asyncNotPrepared)
      | .completed => (store, .error .asyncFinishedTwice)
      | .awaited =>
          let ended := store.setCell key ⟨cell.span.completedAt now, false⟩
          if cell.holdsContext then ended.asyncStop (.own key)
          else (ended, .error .noRunningContext)

end Store

inductive Call where
  | activeSpan
  | operate (operation : Operation)

def Call.carrier? : Call → Option Carrier
  | operate (.inject carrier) | operate (.extract carrier) => some carrier
  | _ => none

def Call.span? : Call → Option SpanKey
  | operate (.prepare key) | operate (.finish key) => some key
  | operate (.annotate key _) | operate (.applyFlags key _) => some key
  | _ => none

def Call.carrierAfter (call : Call) : Except TraceError Output → Option Carrier
  | .ok (.carrier prepared) => some prepared
  | _ => call.carrier?

structure Attempt where
  store : Store
  carrier : Option Carrier := none
  result : Except TraceError Output

namespace Store

/-- Make a call of a context. A call of a span can come when its context is gone. -/
def call (store : Store) (alive : Bool) (moment : Moment) : Call → Attempt
  | .activeSpan => { store, result := store.activeSpan.map .span }
  | .operate (.create role name peer) =>
      let created := store.createSpan moment role name peer
      { store := created.1, result := created.2.map .span }
  | .operate (.stop span) =>
      let stopped := store.stopSpan moment.now span
      { store := stopped.1, result := stopped.2.map .stopped }
  | .operate (.inject carrier) =>
      let injected := store.inject moment.now carrier
      { store, carrier := some injected.1, result := injected.2.map fun _ => .carrier injected.1 }
  | .operate (.extract carrier) =>
      let extracted := store.extract moment carrier
      { store := extracted.1, carrier := some carrier, result := extracted.2.map fun _ => .done }
  | .operate .capture => { store, result := store.capture.map .snapshot }
  | .operate (.resume snapshot) =>
      let resumed := store.resume moment snapshot
      { store := resumed.1, result := resumed.2.map fun _ => .done }
  | .operate (.prepare key) =>
      let prepared := store.prepareAsync alive key
      { store := prepared.1, result := prepared.2.map fun _ => .done }
  | .operate (.finish key) =>
      let finished := store.finishAsync moment.now key
      { store := finished.1, result := finished.2.map fun _ => .done }
  | .operate (.annotate key remark) =>
      { store := store.edit key (·.annotate moment.now remark), result := .ok .done }
  | .operate (.applyFlags key extension) =>
      { store := store.edit key (·.applyFlags extension moment.now), result := .ok .done }
  | .operate .awaitCompletion => { store := store.awaitCompletion, result := .ok .done }
  | .operate (.asyncStop span) =>
      let counted := store.asyncStop span
      { store := counted.1, result := counted.2.map fun _ => .done }

/-- The store after a run. The context is alive in it; of a context that is gone, the spans can
still be annotated, and that does not ask for the context. -/
def run (store : Store) (steps : List Step) : Store :=
  steps.foldl (fun store step => (store.call true step.1 (.operate step.2)).store) store

end Store

end TraceAgent.Native
