import TraceAgent.Proofs.Application.ZipkinRun
import TraceAgent.Proofs.Propagation.Bag
import TraceAgent.Proofs.Telemetry.B3

/-! A trace of the Zipkin backend that goes on in another process, or on another thread.

The caller puts the identity of its exit span into the bag of the carrier, and
the callee finds it there again, in whatever headers the two agree on. A
snapshot holds the current span itself. Either way the span from elsewhere is
the current one, whatever scopes are open, and the next span becomes its child.
-/

set_option autoImplicit false

namespace TraceAgent

open Propagation
open Segment (Role)

namespace Zipkin.State

variable {state : State} {span : Span}

theorem inject_adding (nested : state.scopes.Nested) (valid : span.identity.isValid)
    (carrier : Carrier) :
    ∃ prepared, (state.adding span).inject carrier = .ok prepared ∧
      prepared.bag = (carrier.storeAll (state.context.propagator.write span.identity)).bag := by
  have current : (state.adding span).scopes.current.identity = span.identity := by
    change (state.scopes.openFor span.context).current.identity = _
    unfold Scopes.openFor
    split
    next same => exact same
    next =>
      rw [nested.current_attach]
      rfl
  unfold inject Scopes.currentIdentity?
  rw [current, if_pos valid]
  exact ⟨_, rfl, rfl⟩

theorem capture_eq_ok {snapshot : Snapshot} (captures : state.capture = .ok snapshot) :
    state.scopes.current.identity.isValid ∧ snapshot.anchor = none ∧
      captured? snapshot = some state.scopes.current := by
  unfold capture Scopes.currentIdentity? at captures
  by_cases valid : state.scopes.current.identity.isValid = true
  · rw [if_pos valid] at captures
    cases captures
    refine ⟨valid, rfl, ?_⟩
    unfold captured? Snapshot.stored? Snapshot.store
    rw [Dictionary.get?_insert, if_pos rfl]
    rfl
  · rw [if_neg valid] at captures
    cases captures

end Zipkin.State

namespace Application

variable {app : Application} {thread agent id : Nat} {state : Zipkin.State}

def IsZipkin (app : Application) (agent : Nat) : Prop :=
  ∃ config provider propagator, app.agents[agent]? = some ⟨config, .zipkin provider propagator⟩

/-- The context of the thread, or the one that the agent would create for it, is a Zipkin context
with some propagator. -/
def RunsZipkin (app : Application) (thread agent : Nat) (propagator : Telemetry.Propagator) :
    Prop :=
  match app.bound thread with
  | some id => ∃ context, app.contexts[id]? = some (.zipkin context) ∧
      context.propagator = propagator
  | none => ∃ config provider, app.agents[agent]? = some ⟨config, .zipkin provider propagator⟩

/-- In this process, a span that starts under another one is its child. -/
def MakesChildren (app : Application) : Prop :=
  ∀ provider ∈ app.recorder.providers, provider.MakesChildren

theorem MakesChildren.of_recorder (makes : app.MakesChildren)
    (recorder : state.recorder = app.recorder) : state.MakesChildren :=
  fun provider found => makes provider (recorder ▸ List.mem_of_getElem? found)

/-- A Zipkin span that started under a span of some identity, and is a child of it. -/
def Descends (before after : Application) (index : Nat) (parent : Telemetry.Identity) : Prop :=
  ∃ span under provider scope kind name, after.zipkinContext index = ⟨some span⟩ ∧
    span = (before.recorder.start provider scope before.clock kind name under).2 ∧
    under.identity = parent ∧ span.ChildOf after.recorder parent

theorem scopes_obtain (app : Application) (thread agent : Nat) :
    ((app.obtain thread agent).app.thread thread).scopes = (app.thread thread).scopes := by
  unfold obtain
  split
  · rfl
  · unfold bind
    rw [thread_setThread]
    unfold Application.thread
    rw [threads_createContext, (app.keepsScopes_createContext thread agent Zipkin.scopeName).stack]

theorem obtain_zipkin {propagator : Telemetry.Propagator}
    (zipkin : app.RunsZipkin thread agent propagator) :
    ∃ state, (app.obtain thread agent).app.Tracing thread (app.obtain thread agent).id state ∧
      state.context.propagator = propagator ∧ state.scopes = (app.thread thread).scopes ∧
      state.recorder = app.recorder ∧ (app.obtain thread agent).app.clock = app.clock := by
  have bound := app.bound_obtain thread agent
  have scopes := app.scopes_obtain thread agent
  unfold RunsZipkin at zipkin
  unfold obtain at bound scopes ⊢
  cases here : app.bound thread with
  | some id =>
    rw [here] at zipkin bound
    obtain ⟨context, found, same⟩ := zipkin
    exact ⟨_, .of_found bound found, same, rfl, rfl, rfl⟩
  | none =>
    rw [here] at zipkin bound scopes
    obtain ⟨config, provider, found⟩ := zipkin
    unfold createContext at bound scopes ⊢
    rw [found] at bound scopes ⊢
    exact ⟨_, .of_found bound List.getElem?_concat_length, rfl, scopes, rfl, rfl⟩

namespace Tracing

theorem inject (tracing : app.Tracing thread id state) (carrier : Carrier) :
    app.inject thread id carrier = state.inject carrier := by
  unfold Application.inject
  rw [tracing.found]
  dsimp only
  rw [tracing.whole]

theorem resume (tracing : app.Tracing thread id state) (snapshot : Snapshot) :
    app.resume thread id snapshot =
      (app.commitZipkin thread id (state.resume snapshot)).note
        (state.resumeDiagnostics snapshot) := by
  unfold Application.resume
  rw [tracing.found]
  dsimp only
  rw [tracing.whole]

theorem createSpan_eq_ok {created : Application} {role : Role} {name peer : String}
    {span : SpanRef} (tracing : app.Tracing thread id state)
    (creates : app.createSpan thread id role name peer = (created, .ok span)) :
    ∃ index, span = .zipkin index ∧
      (state.drawn app.clock role name peer).2.identity.isValid ∧
      created.zipkinContext index = ⟨some (state.drawn app.clock role name peer).2⟩ ∧
      created.Tracing thread id
        (.adding { state with recorder := (state.drawn app.clock role name peer).1 }
          (.keeping role (state.drawn app.clock role name peer).2)) := by
  rw [tracing.toWorks.createSpan] at creates
  obtain ⟨rfl, outcome⟩ := Prod.mk.inj creates
  obtain ⟨index, started, rfl⟩ := eq_ok_of_map outcome
  have result : state.startAs app.clock role name peer =
      ((state.startAs app.clock role name peer).1, .ok index) := Prod.ext rfl started
  obtain ⟨valid, _, same, rfl⟩ := Zipkin.State.startAs_eq_ok result
  have committed := tracing.commit (state.startAs app.clock role name peer).1
  refine ⟨_, rfl, valid, ?_, same ▸ committed⟩
  rw [← committed.contextOf, same]
  exact Zipkin.State.contextOf_adding_new
    { state with recorder := (state.drawn app.clock role name peer).1 } _

theorem inject_adding {span : Zipkin.Span} (tracing : app.Tracing thread id (state.adding span))
    (nested : state.scopes.Nested) (valid : span.identity.isValid) (carrier : Carrier) :
    ∃ prepared, app.inject thread id carrier = .ok prepared ∧
      prepared.bag = (carrier.storeAll (state.context.propagator.write span.identity)).bag := by
  rw [tracing.inject]
  exact Zipkin.State.inject_adding nested valid carrier

/-- The next span is a child of the current one. -/
theorem createSpan_descends {created : Application} {role : Role} {name peer : String}
    {span : SpanRef} (tracing : app.Tracing thread id state) (makes : state.MakesChildren)
    (valid : state.scopes.current.identity.isValid)
    (creates : app.createSpan thread id role name peer = (created, .ok span)) :
    ∃ index, span = .zipkin index ∧ app.Descends created index state.scopes.current.identity := by
  obtain ⟨index, rfl, started, held, after⟩ := tracing.createSpan_eq_ok creates
  have recorder : created.recorder = (state.drawn app.clock role name peer).1 := after.recorder
  have child := Zipkin.State.drawn_childOf makes valid started (.refl _)
  refine ⟨index, rfl, _, state.scopes.current, state.context.provider, state.context.scope,
    Zipkin.State.kindOf role, name, held, ?_, rfl, ?_⟩
  · rw [tracing.recorder]
    rfl
  · rw [recorder]
    exact child

end Tracing

/-- An exit span with a carrier leaves its identity in the bag of the carrier. -/
theorem enterExit_zipkin {writer : Telemetry.Propagator} {sent : Application} {name peer : String}
    {fresh carrier : Carrier} {exit : SpanRef} (nested : (app.thread thread).scopes.Nested)
    (zipkin : app.RunsZipkin thread agent writer)
    (sends : app.enterExit thread agent name peer (some fresh) = (sent, some carrier, .ok exit)) :
    ∃ index, exit = .zipkin index ∧ (sent.zipkinIdentity index).isValid ∧
      carrier.bag = (fresh.storeAll (writer.write (sent.zipkinIdentity index))).bag := by
  obtain ⟨state, tracing, rfl, scopes, _, _⟩ := obtain_zipkin zipkin
  obtain ⟨creates, injects⟩ := enterExit_eq_ok sends
  obtain ⟨index, rfl, valid, held, after⟩ := tracing.createSpan_eq_ok creates
  rw [← scopes] at nested
  obtain ⟨_, injected, prepared⟩ := after.inject_adding nested valid fresh
  cases injects.symm.trans injected
  have identity : sent.zipkinIdentity index =
      (state.drawn (app.obtain thread agent).app.clock .exit (cutName name) peer).2.identity := by
    unfold zipkinIdentity
    rw [held]
    rfl
  refine ⟨index, rfl, ?_, ?_⟩
  · rw [identity]
    exact valid
  · rw [identity]
    exact prepared

theorem apart_b3 : Headers.Apart Telemetry.B3.headers := by
  have plain : ∀ name ∈ Telemetry.B3.headers, LowerCase.isPlain name := by decide
  refine ⟨fun name listed => LowerCase.lower_of_isPlain (plain name listed), ?_⟩
  intro header part
  rw [Carrier.lower_header header part]
  exact (by decide : ∀ header ∈ [Origin.header, Correlation.header, Extension.header],
    ∀ name ∈ Telemetry.B3.headers, header ≠ name) header part

theorem expected_newCarrier (zipkin : app.IsZipkin agent) :
    (app.newCarrier agent).expected = some Telemetry.B3.headers := by
  obtain ⟨config, provider, propagator, found⟩ := zipkin
  unfold newCarrier expectedHeaders tracer?
  rw [found]
  rfl

/-- What was put into the bag of a carrier for a span is read from the headers of the message, and
nothing else is. -/
theorem stored?_inbound {carrier fresh : Carrier} {writer : Telemetry.Propagator}
    {identity : Telemetry.Identity} (writes : writer.WritesB3) (plain : fresh.bag = none)
    (prepared : carrier.bag = (fresh.storeAll (writer.write identity)).bag)
    (zipkin : app.IsZipkin agent) :
    ((app.newCarrier agent).receive
      (Headers.read? (Headers.writeAll .empty carrier.outgoing))).stored? =
        fun name => lookup name (writer.write identity) := by
  have holds : ∀ name, carrier.stored? name = lookup name (writer.write identity) := by
    intro name
    have blank : fresh.stored? name = none := by
      unfold Carrier.stored?
      rw [plain]
      rfl
    have stored := fresh.stored?_storeAll (writes.once identity) name
    rw [blank, Option.or_none] at stored
    unfold Carrier.stored? at stored ⊢
    rw [prepared]
    exact stored
  have own : ∀ pair ∈ carrier.bagPairs, pair.1 ∈ Telemetry.B3.headers ∧ pair.2 ≠ "" := by
    intro pair member
    have found : carrier.stored? pair.1 = some pair.2 := by
      unfold Carrier.bagPairs at member
      unfold Carrier.stored?
      cases held : carrier.bag with
      | none =>
        rw [held] at member
        cases member
      | some bag =>
        rw [held] at member
        exact lookup_of_mem bag.ordered member
    exact writes.listed identity pair (mem_of_lookup ((holds _).symm.trans found))
  funext name
  rw [Carrier.stored?_receive (bag_newCarrier app agent) (expected_newCarrier zipkin) apart_b3]
  split
  next listed => rw [Carrier.read?_outgoing_bag apart_b3 own listed, holds]
  next unlisted =>
    refine (lookup_eq_none.mpr fun pair member same => unlisted ?_).symm
    rw [← same]
    exact (writes.listed identity pair member).1

theorem Descends.congr {before earlier after : Application} {index : Nat}
    {parent : Telemetry.Identity} (descends : before.Descends after index parent)
    (recorder : before.recorder = earlier.recorder) (clock : before.clock = earlier.clock) :
    earlier.Descends after index parent := by
  unfold Descends at descends ⊢
  rw [recorder, clock] at descends
  exact descends

/-- An entry span is a child of the span that its carrier names. -/
theorem enterEntry_descends {reader : Telemetry.Propagator} {entered : Application} {name : String}
    {carrier : Carrier} {returned : Option Carrier} {entry : SpanRef}
    (nested : (app.thread thread).scopes.Nested) (makes : app.MakesChildren)
    (zipkin : app.RunsZipkin thread agent reader)
    (valid : (reader.read carrier.stored?).identity.isValid)
    (enters : app.enterEntry thread agent name (some carrier) = (entered, returned, .ok entry)) :
    ∃ index, entry = .zipkin index ∧
      app.Descends entered index (reader.read carrier.stored?).identity := by
  obtain ⟨state, tracing, rfl, scopes, recorder, clock⟩ := obtain_zipkin zipkin
  obtain ⟨_, creates⟩ := enterEntry_eq_ok.mp enters
  rw [tracing.extract] at creates
  rw [← scopes] at nested
  have current : (state.extract carrier).1.scopes.current =
      state.context.propagator.read carrier.stored? := by
    rw [Zipkin.State.scopes_extract, Zipkin.Context.received?_eq_some.mpr ⟨rfl, valid⟩]
    exact nested.current_attach _
  have continued := (tracing.commit (state.extract carrier).1).note
    (state.extractDiagnostics carrier)
  obtain ⟨index, rfl, descends⟩ := continued.createSpan_descends
    (makes.of_recorder recorder) (by rw [current]; exact valid) creates
  rw [current] at descends
  -- Continuing a call records nothing.
  exact ⟨index, rfl, descends.congr recorder clock⟩

/-- The carrier names no span to the Zipkin context that the thread is bound to. -/
def Silent (app : Application) (thread : Nat) (carrier : Option Carrier) : Prop :=
  ∀ id context call, app.bound thread = some id → app.contexts[id]? = some (.zipkin context) →
    carrier = some call → context.received? call = none

/-- A thread that continues a capture of the Zipkin backend has the captured span as its current
one, whatever scopes were open. -/
theorem resumeBound_zipkin {propagator : Telemetry.Propagator} {snapshot : Snapshot}
    {captured : Telemetry.Context} (nested : (app.thread thread).scopes.Nested)
    (zipkin : app.RunsZipkin thread agent propagator) (foreign : snapshot.anchor = none)
    (holds : Zipkin.State.captured? snapshot = some captured) :
    ∃ id state, (app.resumeBound thread agent snapshot).Tracing thread id state ∧
      state.scopes.current = captured ∧ state.recorder = app.recorder ∧
      (app.resumeBound thread agent snapshot).clock = app.clock := by
  obtain ⟨state, tracing, _, scopes, recorder, clock⟩ := obtain_zipkin zipkin
  have elsewhere : app.isFromCurrent thread snapshot = false := by
    unfold isFromCurrent
    rw [foreign]
  have resumed : app.resumeBound thread agent snapshot =
      ((app.obtain thread agent).app.commitZipkin thread (app.obtain thread agent).id
        (state.resume snapshot)).note (state.resumeDiagnostics snapshot) := by
    unfold resumeBound
    rw [elsewhere, if_neg Bool.false_ne_true]
    exact tracing.resume snapshot
  rw [resumed]
  refine ⟨_, _, (tracing.commit _).note _, ?_, recorder, clock⟩
  rw [← scopes] at nested
  unfold Zipkin.State.resume
  rw [holds]
  exact nested.current_attach captured

/-- The span that is created right after a capture is continued is a child of the captured span. -/
theorem enter_descends {propagator : Telemetry.Propagator} {snapshot : Snapshot}
    {captured : Telemetry.Context} {other : Nat} {entered : Application} {role : Role}
    {name peer : String} {carrier returned : Option Carrier} {span : SpanRef}
    (nested : (app.thread thread).scopes.Nested) (makes : app.MakesChildren)
    (zipkin : app.RunsZipkin thread agent propagator) (foreign : snapshot.anchor = none)
    (holds : Zipkin.State.captured? snapshot = some captured) (valid : captured.identity.isValid)
    (silent : role = .entry → (app.resumeBound thread agent snapshot).Silent thread carrier)
    (enters : (app.resumeBound thread agent snapshot).enter thread other role name peer carrier =
      (entered, returned, .ok span)) :
    ∃ index, span = .zipkin index ∧ app.Descends entered index captured.identity := by
  obtain ⟨id, state, tracing, current, recorder, clock⟩ :=
    resumeBound_zipkin nested zipkin foreign holds
  have makes := makes.of_recorder recorder
  obtain ⟨address, received, creates, rfl | ⟨call, entry, given, rfl⟩⟩ :=
    enter_eq_ok tracing.bound enters
  · obtain ⟨index, rfl, descends⟩ := tracing.createSpan_descends makes (current ▸ valid) creates
    rw [current] at descends
    exact ⟨index, rfl, descends.congr (tracing.recorder.trans recorder) clock⟩
  · -- The carrier names no span, so the captured one stays the current one.
    rw [tracing.extract] at creates
    have unnamed := silent entry id state.context call tracing.bound tracing.found given
    have kept : (state.extract call).1.scopes = state.scopes := by
      rw [Zipkin.State.scopes_extract, unnamed]
    have continued := (tracing.commit (state.extract call).1).note
      (state.extractDiagnostics call)
    obtain ⟨index, rfl, descends⟩ := continued.createSpan_descends makes
      (by rw [kept, current]; exact valid) creates
    rw [kept, current] at descends
    exact ⟨index, rfl, descends.congr recorder clock⟩

/-- A trace of the Zipkin backend goes on where a call or a capture is continued. If an exit span
is created with a new carrier, whatever the caller did before and however it writes headers, and
the headers written from the carrier are read into a new carrier of the callee, then an entry
span with that carrier is a child of the exit span, whatever the callee did before. If a capture
is continued on a thread, then the span of any role that is created there next is a child of the
captured span, unless it is an entry span whose own carrier names another one. -/
theorem zipkin_trace_continues :
    (∀ {upstream sent : Application} {sender caller : Nat} {exitName peer : String}
        {writer reader : Telemetry.Propagator} {carrier : Carrier} {exit : SpanRef},
      upstream.Reachable → upstream.stack.ShowsLatest → upstream.RunsZipkin sender caller writer →
      writer.WritesB3 → reader.Recovers writer →
      upstream.enterExit sender caller exitName peer (some (upstream.newCarrier caller)) =
        (sent, some carrier, .ok exit) →
      ∀ {downstream entered : Application} {receiver callee : Nat} {entryName : String}
        {returned : Option Carrier} {entry : SpanRef}, downstream.Reachable →
      downstream.stack.ShowsLatest → downstream.MakesChildren → downstream.IsZipkin callee →
      downstream.RunsZipkin receiver callee reader →
      downstream.enterEntry receiver callee entryName
        (some ((downstream.newCarrier callee).receive
          (Headers.read? (Headers.writeAll .empty carrier.outgoing)))) =
            (entered, returned, .ok entry) →
      ∃ exitIndex entryIndex parent, exit = .zipkin exitIndex ∧ entry = .zipkin entryIndex ∧
        parent.SameSpan (sent.zipkinIdentity exitIndex) ∧ parent.remote ∧
        downstream.Descends entered entryIndex parent) ∧
    (∀ {source : Application} {thread id : Nat} {context : Zipkin.Context} {snapshot : Snapshot},
      source.contexts[id]? = some (.zipkin context) → source.capture thread id = .ok snapshot →
      ∀ {target entered : Application} {worker agent other : Nat}
        {propagator : Telemetry.Propagator} {role : Role} {name peer : String}
        {carrier returned : Option Carrier} {span : SpanRef}, target.Reachable →
      target.stack.ShowsLatest → target.MakesChildren →
      target.RunsZipkin worker agent propagator →
      (role = .entry → (target.resumeBound worker agent snapshot).Silent worker carrier) →
      (target.resumeBound worker agent snapshot).enter worker other role name peer carrier =
        (entered, returned, .ok span) →
      ∃ index, span = .zipkin index ∧
        target.Descends entered index (source.thread thread).scopes.current.identity) := by
  constructor
  · intro upstream sent sender caller exitName peer writer reader carrier exit reached shows
      upstreamZipkin writes recovers sends downstream entered receiver callee entryName returned
      entry reachable latest makes agentZipkin zipkin enters
    obtain ⟨exitIndex, rfl, valid, prepared⟩ :=
      enterExit_zipkin (reached.nested shows sender) upstreamZipkin sends
    have told := stored?_inbound writes (bag_newCarrier upstream caller) prepared agentZipkin
    obtain ⟨same, remote⟩ := recovers _ valid
    rw [← told] at same remote
    obtain ⟨entryIndex, rfl, descends⟩ :=
      enterEntry_descends (reachable.nested latest receiver) makes zipkin
        (same.isValid.trans valid) enters
    exact ⟨exitIndex, entryIndex, _, rfl, rfl, same, remote, descends⟩
  · intro source thread id context snapshot found captures target entered worker agent other
      propagator role name peer carrier returned span reachable latest makes zipkin silent enters
    have captured : (source.zipkinState thread context).capture = .ok snapshot := by
      unfold Application.capture at captures
      rw [found] at captures
      exact captures
    obtain ⟨valid, foreign, holds⟩ := Zipkin.State.capture_eq_ok captured
    exact enter_descends (reachable.nested latest worker) makes zipkin foreign holds valid
      silent enters

def zipkinPeer (name : String) (encoding : Telemetry.B3.Encoding) : Application :=
  (begin 0 0).addZipkin { service := name, instanceName := "instance" }
    (Telemetry.B3.propagator encoding) (.counting .parentBased 1 1 1)

def zipkinCall : Application × Option Carrier × Except TraceError SpanRef :=
  (zipkinPeer "caller" .single).enterExit 0 0 "/call" "peer:80"
    (some ((zipkinPeer "caller" .single).newCarrier 0))

def zipkinCarrier : Carrier := zipkinCall.2.1.getD {}

def zipkinEntry : Application × Option Carrier × Except TraceError SpanRef :=
  (zipkinPeer "callee" .multi).enterEntry 0 0 "/serve"
    (some (((zipkinPeer "callee" .multi).newCarrier 0).receive
      (Headers.read? (Headers.writeAll .empty zipkinCarrier.outgoing))))

def zipkinCapture : Snapshot where
  anchor := none
  correlation := {}
  bag := Dictionary.empty.insert Zipkin.contextKey
    (.context (zipkinCall.1.thread 0).scopes.current)

def zipkinWork : Application × Option Carrier × Except TraceError SpanRef :=
  (zipkinCall.1.resumeBound 1 0 zipkinCapture).enter 1 0 .inner "work" "" none

def divertedWork : Application × Option Carrier × Except TraceError SpanRef :=
  (zipkinCall.1.resumeBound 1 0 zipkinCapture).enter 1 0 .entry "/serve" "" (some remoteCall)

theorem zipkinPeer_reachable (name : String) (encoding : Telemetry.B3.Encoding) :
    (zipkinPeer name encoding).Reachable :=
  ⟨0, 0, .holding [], [.addZipkin _ (Telemetry.B3.propagator encoding) _], rfl⟩

theorem isZipkin_zipkinPeer (name : String) (encoding : Telemetry.B3.Encoding) :
    (zipkinPeer name encoding).IsZipkin 0 := ⟨_, _, _, rfl⟩

theorem runsZipkin_zipkinPeer (name : String) (encoding : Telemetry.B3.Encoding) :
    (zipkinPeer name encoding).RunsZipkin 0 0 (Telemetry.B3.propagator encoding) := ⟨_, _, rfl⟩

theorem makesChildren_zipkinPeer (name : String) (encoding : Telemetry.B3.Encoding) :
    (zipkinPeer name encoding).MakesChildren := by
  intro provider member
  rw [List.mem_singleton.mp member]
  exact Telemetry.Sdk.makesChildren _

theorem zipkinCall_reachable : zipkinCall.1.Reachable :=
  ⟨0, 0, .holding [], [.addZipkin { service := "caller", instanceName := "instance" }
      (Telemetry.B3.propagator .single) (.counting .parentBased 1 1 1),
    .perform 0 (.thread 0) (.create .exit "/call" "peer:80"
      (some ((zipkinPeer "caller" .single).newCarrier 0)))], rfl⟩

theorem runsZipkin_zipkinCall :
    zipkinCall.1.RunsZipkin 1 0 (Telemetry.B3.propagator .single) := ⟨_, _, rfl⟩

theorem makesChildren_zipkinCall : zipkinCall.1.MakesChildren := by
  intro provider member
  rw [List.mem_singleton.mp member]
  exact (Telemetry.Sdk.makesChildren _).run [_, _]

theorem zipkinCall_eq :
    (zipkinPeer "caller" .single).enterExit 0 0 "/call" "peer:80"
        (some ((zipkinPeer "caller" .single).newCarrier 0)) =
      (zipkinCall.1, some zipkinCarrier, .ok (.zipkin 0)) := rfl

theorem eq_of_created {entered : Application × Option Carrier × Except TraceError SpanRef}
    {span : SpanRef} (created : entered.2.2 = .ok span) :
    entered = (entered.1, entered.2.1, .ok span) := by rw [← created]

theorem zipkinEntry_eq : zipkinEntry = (zipkinEntry.1, zipkinEntry.2.1, .ok (.zipkin 0)) := by
  apply eq_of_created
  unfold zipkinEntry
  rw [Carrier.receive_writeAll_of_isPlain (by decide +kernel) (by decide +kernel)]
  decide +kernel

theorem zipkinWork_eq : zipkinWork = (zipkinWork.1, zipkinWork.2.1, .ok (.zipkin 1)) :=
  eq_of_created (by decide +kernel)

theorem idle_callee_descends :
    (∃ exitIndex entryIndex parent, SpanRef.zipkin 0 = .zipkin exitIndex ∧
      SpanRef.zipkin 0 = .zipkin entryIndex ∧
      parent.SameSpan (zipkinCall.1.zipkinIdentity exitIndex) ∧ parent.remote ∧
      (zipkinPeer "callee" .multi).Descends zipkinEntry.1 entryIndex parent) ∧
    (∃ index, SpanRef.zipkin 1 = .zipkin index ∧
      zipkinCall.1.Descends zipkinWork.1 index (zipkinCall.1.thread 0).scopes.current.identity) := by
  constructor
  · exact zipkin_trace_continues.1 (zipkinPeer_reachable "caller" .single)
      Telemetry.ContextStack.holding_showsLatest (runsZipkin_zipkinPeer "caller" .single)
      (Telemetry.B3.writesB3 .single) (Telemetry.B3.recovers .multi .single) zipkinCall_eq
      (zipkinPeer_reachable "callee" .multi) Telemetry.ContextStack.holding_showsLatest
      (makesChildren_zipkinPeer "callee" .multi)
      (isZipkin_zipkinPeer "callee" .multi) (runsZipkin_zipkinPeer "callee" .multi) zipkinEntry_eq
  · have captures : zipkinCall.1.capture 0 0 = .ok zipkinCapture := rfl
    exact zipkin_trace_continues.2 rfl captures zipkinCall_reachable
      Telemetry.ContextStack.holding_showsLatest makesChildren_zipkinCall runsZipkin_zipkinCall
      (fun entry => by cases entry) zipkinWork_eq

/-- An entry span that receives a call is a child of the span that the call came out of, although
a capture was continued right before. -/
theorem call_outranks_capture :
    zipkinCall.1.Reachable ∧ zipkinCall.1.stack.ShowsLatest ∧ zipkinCall.1.MakesChildren ∧
      zipkinCall.1.RunsZipkin 1 0 (Telemetry.B3.propagator .single) ∧
      zipkinCall.1.capture 0 0 = .ok zipkinCapture ∧ divertedWork.2.2 = .ok (.zipkin 1) ∧
      ((zipkinCall.1.thread 0).scopes.current.identity.traceId = 1 ∧
        (divertedWork.1.zipkinIdentity 1).traceId = 0xab ∧
        (divertedWork.1.zipkinRecording? 1).map (·.parentId) = some 0xcd) ∧
      ¬ zipkinCall.1.Descends divertedWork.1 1
          (zipkinCall.1.thread 0).scopes.current.identity := by
  have traces : (zipkinCall.1.thread 0).scopes.current.identity.traceId = 1 ∧
      (divertedWork.1.zipkinIdentity 1).traceId = 0xab ∧
      (divertedWork.1.zipkinRecording? 1).map (·.parentId) = some 0xcd := by decide +kernel
  refine ⟨zipkinCall_reachable, Telemetry.ContextStack.holding_showsLatest,
    makesChildren_zipkinCall, runsZipkin_zipkinCall, rfl, by decide +kernel, traces, ?_⟩
  rintro ⟨span, _, _, _, _, _, held, _, _, child⟩
  have same := child.trace
  have identity : divertedWork.1.zipkinIdentity 1 = span.identity :=
    congrArg Telemetry.Context.identity held
  rw [← identity, traces.1, traces.2.1] at same
  cases same

end Application

end TraceAgent
