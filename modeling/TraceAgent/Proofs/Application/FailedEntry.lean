import TraceAgent.Proofs.Application.ZipkinHop

/-! Entry spans that do not start on the Zipkin backend.

Telemetry may draw an identity that is not valid, or one that runs already. The
call that the carrier brought is continued all the same, before anyone knows
about the span, and its scope stays open on the thread. So a failed entry span
leaves the thread as it was exactly if the carrier names no span.
-/

set_option autoImplicit false

namespace TraceAgent

open Propagation
open Segment (Role)

namespace Zipkin.State

variable {state : State} {carrier : Carrier}

theorem activeSpan_extract_unnamed (unnamed : state.context.received? carrier = none) :
    (state.extract carrier).1.activeSpan = state.activeSpan := by
  unfold activeSpan extract
  rw [unnamed]

theorem activeSpan_of_idle (idle : state.context.running = []) :
    state.activeSpan = .error .noActiveSpan := by
  unfold activeSpan
  rw [idle]
  split <;> rfl

end Zipkin.State

namespace Application

variable {app later entered : Application} {thread agent id : Nat} {state : Zipkin.State}
  {name : String} {carrier : Carrier} {returned : Option Carrier} {error : TraceError}

/-- The context that a carrier brings to the Zipkin context in which a thread would work. -/
def received? (app : Application) (thread agent : Nat) (carrier : Carrier) :
    Option Telemetry.Context :=
  match (app.obtain thread agent).app.contexts[(app.obtain thread agent).id]? with
  | some (.zipkin context) => context.received? carrier
  | some (.native ..) | none => none

/-- Whichever span a thread enters next without a call, telemetry starts it under the span of a
context. -/
def EntersUnder (app : Application) (thread : Nat) (parent : Telemetry.Context) : Prop :=
  ∀ entered agent propagator role name peer returned span,
    app.RunsZipkin thread agent propagator →
    app.enter thread agent role name peer none = (entered, returned, .ok span) →
    ∃ index provider scope kind label, span = .zipkin index ∧ entered.zipkinContext index =
      ⟨some (app.recorder.start provider scope app.clock kind label parent).2⟩

/-- What a thread shows of its trace is the same, the scopes on it are, and so is the parent of
the span that it enters next. -/
structure Recovered (app later : Application) (thread : Nat) : Prop where
  isActive : later.isActive thread = app.isActive thread
  active : later.activeBound thread = app.activeBound thread
  openScopes : (later.thread thread).scopes.opened.length = (app.thread thread).scopes.opened.length
  current : (later.thread thread).scopes.current = (app.thread thread).scopes.current
  next : later.EntersUnder thread (app.thread thread).scopes.current

theorem running_obtain (zipkin : app.IsZipkin agent) (free : app.bound thread = none)
    (tracing : (app.obtain thread agent).app.Tracing thread (app.obtain thread agent).id state) :
    state.context.running = [] := by
  have found := tracing.found
  obtain ⟨config, provider, propagator, known⟩ := zipkin
  unfold obtain createContext at found
  rw [free] at found
  dsimp only at found
  rw [known] at found
  change (app.contexts ++ [_])[app.contexts.length]? = _ at found
  rw [List.getElem?_concat_length] at found
  have same := TracingContext.zipkin.inj (Option.some.inj found)
  rw [← same]

theorem received?_eq
    (tracing : (app.obtain thread agent).app.Tracing thread (app.obtain thread agent).id state) :
    app.received? thread agent carrier = state.context.received? carrier := by
  unfold received?
  rw [tracing.found]

theorem entersUnder_current (app : Application) (thread : Nat) :
    app.EntersUnder thread (app.thread thread).scopes.current := by
  intro entered agent propagator role name peer returned span zipkin enters
  obtain ⟨state, tracing, _, scopes, recorder, clock⟩ := obtain_zipkin zipkin
  obtain ⟨address, creates⟩ := created_of_enter (fun _ => rfl) enters
  obtain ⟨index, rfl, _, held, _⟩ := tracing.createSpan_eq_ok creates
  refine ⟨index, state.context.provider, state.context.scope, Zipkin.State.kindOf role,
    cutName name, rfl, ?_⟩
  rw [held, ← scopes, ← recorder, ← clock]
  rfl

/-- If the current span of a thread is known, then the next one is its child. -/
theorem enter_descends_current {propagator : Telemetry.Propagator} {role : Role} {peer : String}
    {span : SpanRef} (makes : app.MakesChildren) (zipkin : app.RunsZipkin thread agent propagator)
    (valid : (app.thread thread).scopes.current.identity.isValid)
    (enters : app.enter thread agent role name peer none = (entered, returned, .ok span)) :
    ∃ index, span = .zipkin index ∧
      app.Descends entered index (app.thread thread).scopes.current.identity := by
  obtain ⟨state, tracing, _, scopes, recorder, clock⟩ := obtain_zipkin zipkin
  obtain ⟨address, creates⟩ := created_of_enter (fun _ => rfl) enters
  rw [← scopes] at valid ⊢
  obtain ⟨index, rfl, descends⟩ :=
    tracing.createSpan_descends (makes.of_recorder recorder) valid creates
  exact ⟨index, rfl, descends.congr (tracing.recorder.trans recorder) clock⟩

/-- An entry span that does not start leaves the scopes and the running spans as the continued
call had left them, and a context that was created for it is released. -/
theorem enterEntry_eq_error
    (tracing : (app.obtain thread agent).app.Tracing thread (app.obtain thread agent).id state)
    (fails : app.enterEntry thread agent name (some carrier) = (later, returned, .error error)) :
    ∃ (failed : Application) (recorder : Telemetry.Recorder),
      failed.Tracing thread (app.obtain thread agent).id
        { (state.extract carrier).1 with recorder } ∧
      later = failed.releaseUnused thread (app.obtain thread agent).id
        (app.obtain thread agent).created := by
  have linked := (tracing.commit (state.extract carrier).1).note
    (state.extractDiagnostics carrier)
  unfold enterEntry at fails
  dsimp only at fails
  rw [tracing.extract] at fails
  dsimp only at fails
  generalize ((app.obtain thread agent).app.commitZipkin thread (app.obtain thread agent).id
    (state.extract carrier).1).note (state.extractDiagnostics carrier) = continued at fails linked
  unfold createOrRelease at fails
  dsimp only at fails
  rw [linked.toWorks.createSpan] at fails
  have attempted := linked.commit
    ((state.extract carrier).1.startAs continued.clock .entry (cutName name) "").1
  cases refused :
      ((state.extract carrier).1.startAs continued.clock .entry (cutName name) "").2 with
  | ok index =>
    rw [refused] at fails
    cases fails
  | error reason =>
    rw [refused] at fails
    cases fails
    obtain ⟨recorder, same⟩ := Zipkin.State.startAs_eq_error refused
    rw [same] at attempted ⊢
    exact ⟨_, recorder, attempted, rfl⟩

theorem created_obtain (app : Application) (thread agent : Nat) :
    (app.obtain thread agent).created = (app.bound thread).isNone := by
  unfold obtain
  cases app.bound thread <;> rfl

theorem releaseUnused_of_kept (app : Application) (thread id : Nat) :
    app.releaseUnused thread id false = app := by
  unfold releaseUnused
  split <;> rfl

theorem releaseUnused_of_created (idle : app.activeSpan thread id = .error error) :
    app.releaseUnused thread id true = app.bind thread none := by
  unfold releaseUnused
  rw [idle]
  rfl

/-- A failed entry span leaves the thread bound as it was, and on it the scope of the call. -/
theorem enterEntry_failed {propagator : Telemetry.Propagator}
    (zipkin : app.RunsZipkin thread agent propagator)
    (fails : app.enterEntry thread agent name (some carrier) = (later, returned, .error error)) :
    later.bound thread = app.bound thread ∧
      (later.thread thread).scopes = (match app.received? thread agent carrier with
        | some received => (app.thread thread).scopes.attach received
        | none => (app.thread thread).scopes) ∧
      (app.received? thread agent carrier = none →
        later.activeBound thread = app.activeBound thread) := by
  obtain ⟨state, tracing, _, before, _, _⟩ := obtain_zipkin zipkin
  obtain ⟨failed, recorder, attempted, rfl⟩ := enterEntry_eq_error tracing fails
  have scopes := attempted.scopes.trans (state.scopes_extract carrier)
  have active : Zipkin.State.activeSpan { (state.extract carrier).1 with recorder } =
      (state.extract carrier).1.activeSpan := Zipkin.State.activeSpan_congr rfl rfl
  rw [received?_eq tracing, ← before]
  rw [created_obtain]
  cases bound : app.bound thread with
  | some id =>
    have kept := failed.releaseUnused_of_kept thread (app.obtain thread agent).id
    rw [Option.isNone_some, kept]
    rw [obtain_of_bound agent bound] at tracing attempted
    refine ⟨attempted.bound, scopes, fun unnamed => ?_⟩
    rw [attempted.activeBound, tracing.activeBound, active,
      Zipkin.State.activeSpan_extract_unnamed unnamed]
  | none =>
    have agentZipkin : app.IsZipkin agent := by
      unfold RunsZipkin at zipkin
      rw [bound] at zipkin
      obtain ⟨config, provider, found⟩ := zipkin
      exact ⟨config, provider, propagator, found⟩
    have running := running_obtain agentZipkin bound tracing
    have nothing : (state.extract carrier).1.activeSpan = .error .noActiveSpan :=
      Zipkin.State.activeSpan_of_idle running
    have idle : failed.activeSpan thread (app.obtain thread agent).id = .error .noActiveSpan := by
      rw [attempted.activeSpan, active, nothing]
      rfl
    rw [Option.isNone_none, releaseUnused_of_created idle]
    refine ⟨bound_bind none, ?_, fun _ => ?_⟩
    · unfold bind
      rw [thread_setThread]
      exact scopes
    · unfold activeBound
      rw [bound_bind, bound]

/-- A failed entry span leaves the thread as bound as it was. All else is as before, down to the
parent of the span that comes next, exactly if the carrier brings no context to the backend. If it
brings one, then that one stays behind in a scope of its own, and the next span becomes a child of
its span. -/
theorem failed_entry_recovered_iff {propagator : Telemetry.Propagator}
    (reachable : app.Reachable) (shows : app.stack.ShowsLatest)
    (zipkin : app.RunsZipkin thread agent propagator)
    (fails : app.enterEntry thread agent name (some carrier) = (later, returned, .error error)) :
    later.isActive thread = app.isActive thread ∧
      (Recovered app later thread ↔ app.received? thread agent carrier = none) ∧
      ∀ received, app.received? thread agent carrier = some received →
        (later.thread thread).scopes = (app.thread thread).scopes.attach received ∧
        (later.thread thread).scopes.current = received ∧
        ∀ {entered other propagator role next peer returned span}, later.MakesChildren →
          later.RunsZipkin thread other propagator →
          later.enter thread other role next peer none = (entered, returned, .ok span) →
          ∃ index, span = .zipkin index ∧ later.Descends entered index received.identity := by
  obtain ⟨bound, scopes, active⟩ := enterEntry_failed zipkin fails
  have isActive : later.isActive thread = app.isActive thread := by
    unfold Application.isActive
    rw [bound]
  refine ⟨isActive, ⟨fun recovered => ?_, fun unnamed => ?_⟩, fun received named => ?_⟩
  · cases named : app.received? thread agent carrier with
    | none => rfl
    | some received =>
      have counted := recovered.openScopes
      rw [scopes, named] at counted
      exact absurd counted (Nat.succ_ne_self _)
  · rw [unnamed] at scopes
    have current := congrArg Zipkin.Scopes.current scopes
    have next := later.entersUnder_current thread
    rw [current] at next
    exact ⟨isActive, active unnamed, congrArg (·.opened.length) scopes, current, next⟩
  · rw [named] at scopes
    have current : (later.thread thread).scopes.current = received := by
      rw [scopes]
      exact (reachable.nested shows thread).current_attach received
    refine ⟨scopes, current, fun makes runs enters => ?_⟩
    have valid : received.identity.isValid := by
      obtain ⟨state, tracing, _⟩ := obtain_zipkin zipkin
      rw [received?_eq tracing] at named
      exact (Zipkin.Context.received?_eq_some.mp named).2
    have descends := enter_descends_current makes runs (by rw [current]; exact valid) enters
    rwa [current] at descends

/-- A process in which a span has the last id that there is, and the next one would get an id that is
not valid. -/
def lastId : Application :=
  [Event.addZipkin { service := "traced", instanceName := "instance" }
      (Telemetry.B3.propagator .single) (.counting .parentBased 1 0xffffffffffffffff 1),
    .perform 0 (.thread 0) (.create .inner "work" "" none)].foldl after (.begin 0 0)

def withoutId (received : Carrier) : Application × Option Carrier × Except TraceError SpanRef :=
  lastId.enterEntry 0 0 "/nested" (some received)

def nextParentId? (app : Application) : Option (BitVec 64) :=
  match app.enterInner 0 0 "next" with
  | (entered, .ok (.zipkin index)) => (entered.zipkinRecording? index).map (·.parentId)
  | _ => none

theorem lastId_reachable : lastId.Reachable := ⟨0, 0, .holding [], _, rfl⟩

theorem runsZipkin_lastId : lastId.RunsZipkin 0 0 (Telemetry.B3.propagator .single) :=
  ⟨_, rfl, rfl⟩

theorem withoutId_empty :
    withoutId {} = ((withoutId {}).1, (withoutId {}).2.1, .error .noActiveSpan) :=
  Prod.ext rfl (Prod.ext rfl (by decide +kernel))

theorem empty_call_recovers :
    lastId.activeBound 0 = .ok (.zipkin 0) ∧ Recovered lastId (withoutId {}).1 0 ∧
      nextParentId? (withoutId {}).1 = some 0xffffffffffffffff := by
  have unnamed : lastId.received? 0 0 {} = none := by decide +kernel
  obtain ⟨_, recovered, _⟩ := failed_entry_recovered_iff lastId_reachable
    Telemetry.ContextStack.holding_showsLatest runsZipkin_lastId withoutId_empty
  exact ⟨by decide +kernel, recovered.mpr unnamed, by decide +kernel⟩

/-- The call that a failed entry span brought hides the active span, and is the parent of the next
one. -/
theorem failed_call_stays_current :
    lastId.Reachable ∧ lastId.RunsZipkin 0 0 (Telemetry.B3.propagator .single) ∧
      (withoutId remoteCall).2.2 = .error .noActiveSpan ∧
      lastId.activeBound 0 = .ok (.zipkin 0) ∧
      (withoutId remoteCall).1.activeBound 0 = .error .noActiveSpan ∧
      (lastId.thread 0).scopes.opened.length = 1 ∧
      ((withoutId remoteCall).1.thread 0).scopes.opened.length = 2 ∧
      (lastId.thread 0).scopes.current.identity.spanId = 0xffffffffffffffff ∧
      ((withoutId remoteCall).1.thread 0).scopes.current.identity.spanId = 0xcd ∧
      nextParentId? (withoutId remoteCall).1 = some 0xcd :=
  ⟨lastId_reachable, runsZipkin_lastId, by decide +kernel⟩

end Application

end TraceAgent
