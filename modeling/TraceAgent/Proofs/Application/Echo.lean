import TraceAgent.Proofs.Application.Binding
import TraceAgent.Proofs.Application.Retention
import TraceAgent.Proofs.Application.ZipkinHop
import TraceAgent.Proofs.Zipkin.ExtraScope

/-! A thread that has a scope too many.

Two processes are the same but that a thread of the second has one more scope
open. The thread does not notice: each of its calls goes the same way in both,
until a span has stopped and left the scope too many as the innermost one.
-/

set_option autoImplicit false

namespace TraceAgent

open Propagation
open Segment (Role)

theorem Zipkin.State.running_startAs (state : State) (now : Int) (role : Role) (name peer : String) :
    state.context.running <+: (state.startAs now role name peer).1.context.running := by
  cases role with
  | entry => exact state.running_startSpan now .server name _
  | inner => exact state.running_startSpan now .internal name _
  | exit =>
    have started := state.running_startSpan now .client name ({ · with isExit := true })
    unfold startAs startExit
    dsimp only
    split
    next result =>
      rw [result] at started
      rwa [context_changeSpan]
    next result =>
      rw [result] at started
      exact started

namespace Application

def core (app : Application) : Application := { app with threads := [], log := [] }

section Core

variable (app : Application) {other : Application} {thread agent id : Nat}

theorem core_drawId :
    app.core.drawId thread agent = ((app.drawId thread agent).1.core, (app.drawId thread agent).2) := by
  have tracer : app.core.tracer? agent = app.tracer? agent := rfl
  unfold drawId
  rw [tracer]
  split <;> rfl

theorem core_drawMoment :
    app.core.drawMoment thread agent =
      ((app.drawMoment thread agent).1.core, (app.drawMoment thread agent).2) := by
  unfold drawMoment
  rw [core_drawId]
  dsimp only
  rw [core_drawId]
  rfl

theorem core_commit (before after : Native.Context) :
    app.core.commit thread agent id before after = (app.commit thread agent id before after).core := by
  unfold commit
  rw [core_drawMoment]
  dsimp only
  split <;> rfl

theorem core_report (segment : Option Segment) :
    (app.core.report agent segment).core = (app.report agent segment).core := by
  have tracer : ∀ diagnostics, (app.core.note diagnostics).tracer? agent =
      (app.note diagnostics).tracer? agent := fun _ => rfl
  unfold report collect
  split
  · rfl
  · rw [tracer]
    split <;> rfl

theorem core_createContext (scope : String) :
    (app.core.createContext thread agent scope).core = (app.createContext thread agent scope).core := by
  have agents : app.core.agents = app.agents := rfl
  unfold createContext
  rw [agents, core_drawMoment]
  split <;> rfl

variable {app}

theorem contexts_of_core (same : other.core = app.core) : other.contexts = app.contexts := by
  have contexts := congrArg contexts same
  exact contexts

theorem clock_of_core (same : other.core = app.core) : other.clock = app.clock := by
  have clock := congrArg clock same
  exact clock

theorem moment_of_core (same : other.core = app.core) :
    other.moment thread agent = app.moment thread agent := by
  have drawn := congrArg (fun app => (app.drawMoment thread agent).2) same
  rw [core_drawMoment, core_drawMoment] at drawn
  exact drawn

theorem commit_of_core (same : other.core = app.core) (before after : Native.Context) :
    (other.commit thread agent id before after).core =
      (app.commit thread agent id before after).core := by
  rw [← core_commit, same, core_commit]

theorem report_of_core (same : other.core = app.core) (segment : Option Segment) :
    (other.report agent segment).core = (app.report agent segment).core := by
  rw [← core_report, same, core_report]

theorem createContext_of_core (same : other.core = app.core) (scope : String) :
    (other.createContext thread agent scope).core = (app.createContext thread agent scope).core := by
  rw [← core_createContext, same, core_createContext]

end Core

/-- Two processes that are the same but for one more scope of the span that the thread may have in
the second. Then it is bound to the Zipkin context, and spans run there. -/
structure Echoes (thread id : Nat) (identity : Telemetry.Identity) (app other : Application) :
    Prop where
  core : other.core = app.core
  bound : other.bound thread = app.bound thread
  scopes : (other.thread thread).scopes = (app.thread thread).scopes ∨
    app.bound thread = some id ∧ ∃ context, app.contexts[id]? = some (.zipkin context) ∧
      context.running ≠ [] ∧
      (app.thread thread).scopes.Echo identity context.running (other.thread thread).scopes

/-- In the second process the thread has a scope over those of the first. It is bound to the
Zipkin context, where the span of the scope does not run. -/
structure Strands (thread id : Nat) (identity : Telemetry.Identity) (app other : Application) :
    Prop where
  core : other.core = app.core
  bound : other.bound thread = app.bound thread
  home : app.bound thread = some id
  stopped : ∃ context, other.contexts[id]? = some (.zipkin context) ∧
    (app.thread thread).scopes.Bares identity context.running (other.thread thread).scopes

/-- A thread that is stranded has no active span. -/
theorem Strands.activeBound {app other : Application} {thread id : Nat}
    {identity : Telemetry.Identity} (strands : Strands thread id identity app other) :
    other.activeBound thread = .error .noActiveSpan := by
  obtain ⟨context, found, gone, top, rfl, nested, scopes⟩ := strands.stopped
  have tracing := Tracing.of_found (strands.bound.trans strands.home) found
  rw [tracing.activeBound]
  cases active : (other.zipkinState thread context).activeSpan with
  | error error => rw [Zipkin.State.activeSpan_eq_error active, Except.map]
  | ok index =>
    obtain ⟨_, runs⟩ := Zipkin.State.activeSpan_eq_ok.mp active
    change context.running.lookup (other.thread thread).scopes.current.identity = _ at runs
    rw [scopes, nested.current_attach] at runs
    cases gone.symm.trans runs

namespace Echoes

variable {app other next twin : Application} {thread id target agent : Nat}
  {identity : Telemetry.Identity}
  (echoes : Echoes thread id identity app other)
include echoes

theorem contexts : other.contexts = app.contexts := contexts_of_core echoes.core

theorem clock : other.clock = app.clock := clock_of_core echoes.core

theorem now : other.now = app.now := by
  unfold Application.now
  rw [echoes.clock]

theorem away (apart : app.bound thread ≠ some id) :
    (other.thread thread).scopes = (app.thread thread).scopes :=
  echoes.scopes.resolve_right fun home => apart home.1

theorem quiet_or_nested : (other.thread thread).scopes = (app.thread thread).scopes ∨
    app.bound thread = some id ∧ ∃ context, app.contexts[id]? = some (.zipkin context) ∧
      (app.thread thread).scopes.Nested := by
  rcases echoes.scopes with same | ⟨home, context, found, _, same | ⟨_, _, _, _, _, nested, _⟩⟩
  · exact .inl same
  · exact .inl same
  · exact .inr ⟨home, context, found, _, nested⟩

theorem anew (same : (other.thread thread).scopes = (app.thread thread).scopes) (target : Nat) :
    Echoes thread target identity app other := ⟨echoes.core, echoes.bound, .inl same⟩

theorem note (first second : List Diagnostic) :
    Echoes thread id identity (app.note first) (other.note second) :=
  ⟨echoes.core, echoes.bound, echoes.scopes⟩

theorem setClock (clock : Int) :
    Echoes thread id identity { app with clock } { other with clock } :=
  ⟨congrArg (fun core : Application => { core with clock }) echoes.core, echoes.bound,
    echoes.scopes⟩

omit echoes in
theorem scopes_of_threads (threads : next.threads = app.threads) (stack : next.stack = app.stack) :
    (next.thread thread).scopes = (app.thread thread).scopes := by
  unfold Application.thread
  rw [threads, stack]

theorem of_native {context : Native.Context} (bound : app.bound thread = some target)
    (found : app.contexts[target]? = some (.native agent context)) :
    (other.thread thread).scopes = (app.thread thread).scopes := by
  refine echoes.scopes.resolve_right fun ⟨home, _, zipkin, _⟩ => ?_
  cases bound.symm.trans home
  cases found.symm.trans zipkin

theorem commit (same : (other.thread thread).scopes = (app.thread thread).scopes) (agent : Nat)
    (before after : Native.Context) :
    Echoes thread id identity (app.commit thread agent target before after)
      (other.commit thread agent target before after) := by
  refine ⟨commit_of_core echoes.core _ _, ?_, .inl ?_⟩
  · rw [bound_commit, bound_commit, echoes.bound]
  · rw [scopes_of_threads (threads_commit _ _) (keepsScopes_commit _ _ _ _ _ _).stack,
      scopes_of_threads (threads_commit _ _) (keepsScopes_commit _ _ _ _ _ _).stack, same]

theorem rest (context : Zipkin.Context) :
    other.zipkinState thread context =
      { app.zipkinState thread context with scopes := (other.thread thread).scopes } := by
  have spans := congrArg zipkinSpans echoes.core
  have recorder := congrArg recorder echoes.core
  change other.zipkinSpans = app.zipkinSpans at spans
  change other.recorder = app.recorder at recorder
  unfold Application.zipkinState
  rw [spans, recorder]

theorem state_same (same : (other.thread thread).scopes = (app.thread thread).scopes)
    (context : Zipkin.Context) :
    other.zipkinState thread context = app.zipkinState thread context := by
  rw [echoes.rest, same]
  rfl

theorem state {context : Zipkin.Context} (bound : app.bound thread = some target)
    (found : app.contexts[target]? = some (.zipkin context)) :
    (app.zipkinState thread context).Echo identity (other.zipkinState thread context) := by
  rcases echoes.scopes with same | ⟨home, _, here, _, scopes⟩
  · rw [echoes.state_same same]
    exact .refl _
  · cases bound.symm.trans home
    cases found.symm.trans here
    exact ⟨echoes.rest context, scopes⟩

theorem core_commitZipkin {state twinState : Zipkin.State}
    (rest : twinState = { state with scopes := twinState.scopes }) :
    (other.commitZipkin thread target twinState).core =
      (app.commitZipkin thread target state).core := by
  have committed : ∀ (app : Application) (state : Zipkin.State),
      (app.commitZipkin thread target state).core =
        { app.core with
          contexts := app.core.contexts.set target (.zipkin state.context)
          zipkinSpans := state.spans
          recorder := state.recorder } := fun _ _ => rfl
  rw [committed, committed, echoes.core, rest]

theorem commitZipkin {context : Zipkin.Context} {state twinState : Zipkin.State}
    (bound : app.bound thread = some target)
    (found : app.contexts[target]? = some (.zipkin context))
    (echo : state.Echo identity twinState)
    (settled : (other.thread thread).scopes = (app.thread thread).scopes →
      twinState.scopes = state.scopes)
    (busy : context.running ≠ [] → state.context.running ≠ []) :
    Echoes thread id identity (app.commitZipkin thread target state)
      (other.commitZipkin thread target twinState) := by
  refine ⟨echoes.core_commitZipkin echo.rest, ?_, ?_⟩
  · rw [bound_commitZipkin, bound_commitZipkin, echoes.bound]
  · rw [bound_commitZipkin, thread_commitZipkin, thread_commitZipkin]
    rcases echoes.scopes with same | ⟨home, _, here, runs, _⟩
    · exact .inl (settled same)
    · cases bound.symm.trans home
      cases found.symm.trans here
      obtain ⟨within, _⟩ := List.getElem?_eq_some_iff.mp found
      refine .inr ⟨home, state.context, ?_, busy runs, echo.scopes⟩
      rw [contexts_commitZipkin, List.getElem?_set_self within]

theorem work {context : Zipkin.Context} (bound : app.bound thread = some target)
    (found : app.contexts[target]? = some (.zipkin context)) (step : Zipkin.State → Zipkin.State)
    (echoed : ∀ {state twin : Zipkin.State}, state.Echo identity twin →
      (step state).Echo identity (step twin))
    (grows : ∀ state : Zipkin.State, state.context.running <+: (step state).context.running) :
    Echoes thread id identity
      (app.commitZipkin thread target (step (app.zipkinState thread context)))
      (other.commitZipkin thread target (step (other.zipkinState thread context))) := by
  refine echoes.commitZipkin bound found (echoed (echoes.state bound found))
    (fun same => by rw [echoes.state_same same]) fun busy idle => busy ?_
  exact List.prefix_nil.mp (idle ▸ grows (app.zipkinState thread context))

theorem createSpan (bound : app.bound thread = some target) (role : Role) (name peer : String) :
    Echoes thread id identity (app.createSpan thread target role name peer).1
        (other.createSpan thread target role name peer).1 ∧
      (other.createSpan thread target role name peer).2 =
        (app.createSpan thread target role name peer).2 := by
  cases found : app.contexts[target]? with
  | none =>
    unfold Application.createSpan
    rw [echoes.contexts, found]
    exact ⟨echoes, rfl⟩
  | some context =>
    cases context with
    | native agent context =>
      unfold Application.createSpan
      rw [echoes.contexts, found]
      dsimp only
      unfold createNative
      rw [moment_of_core echoes.core]
      exact ⟨echoes.commit (echoes.of_native bound found) agent context _, rfl⟩
    | zipkin context =>
      have works : app.Works thread target (app.zipkinState thread context) := ⟨found, rfl⟩
      have twinWorks : other.Works thread target (other.zipkinState thread context) :=
        ⟨echoes.contexts ▸ found, rfl⟩
      rw [works.createSpan, twinWorks.createSpan, echoes.clock]
      refine ⟨echoes.work bound found (fun state => (state.startAs app.clock role name peer).1)
        (fun echo => (echo.startAs app.clock role name peer).1)
        fun state => state.running_startAs app.clock role name peer, ?_⟩
      rw [((echoes.state bound found).startAs app.clock role name peer).2]

theorem activeSpan (bound : app.bound thread = some target) :
    other.activeSpan thread target = app.activeSpan thread target := by
  unfold Application.activeSpan
  rw [echoes.contexts]
  split
  · rfl
  · rfl
  next context found => rw [(echoes.state bound found).activeSpan]

theorem inject (bound : app.bound thread = some target) (carrier : Carrier) :
    other.inject thread target carrier = app.inject thread target carrier := by
  unfold Application.inject
  rw [echoes.contexts, echoes.now]
  split
  · rfl
  · rfl
  next context found => rw [(echoes.state bound found).inject]

theorem capture (bound : app.bound thread = some target) :
    other.capture thread target = app.capture thread target := by
  unfold Application.capture
  rw [echoes.contexts]
  split
  · rfl
  · rfl
  next context found => rw [(echoes.state bound found).capture]

theorem traceIdText (bound : app.bound thread = some target) :
    other.traceIdText thread target = app.traceIdText thread target := by
  unfold Application.traceIdText
  rw [echoes.contexts]
  split
  · rfl
  · rfl
  next context found => rw [(echoes.state bound found).traceId?]

theorem correlation : other.correlation target = app.correlation target := by
  unfold Application.correlation
  rw [echoes.contexts]

theorem extract (bound : app.bound thread = some target) (carrier : Carrier) :
    Echoes thread id identity (app.extract thread target carrier).1
        (other.extract thread target carrier).1 ∧
      (other.extract thread target carrier).2 = (app.extract thread target carrier).2 := by
  unfold Application.extract
  rw [echoes.contexts]
  split
  · exact ⟨echoes, rfl⟩
  next agent context found =>
    rw [moment_of_core echoes.core]
    exact ⟨(echoes.commit (echoes.of_native bound found) agent context _).note _ _, rfl⟩
  next context found =>
    have extracted := echoes.work bound found (fun state => (state.extract carrier).1)
      (fun echo => (echo.extract carrier).1) fun _ => List.prefix_refl _
    exact ⟨extracted.note _ _, ((echoes.state bound found).extract carrier).2⟩

theorem resume (bound : app.bound thread = some target) (snapshot : Snapshot) :
    Echoes thread id identity (app.resume thread target snapshot)
      (other.resume thread target snapshot) := by
  unfold Application.resume
  rw [echoes.contexts]
  split
  · exact echoes
  next agent context found =>
    rw [moment_of_core echoes.core]
    exact (echoes.commit (echoes.of_native bound found) agent context _).note _ _
  next context found =>
    have resumed := echoes.work bound found (fun state => state.resume snapshot)
      (fun echo => echo.resume snapshot) fun _ => List.prefix_refl _
    exact resumed.note _ _

omit echoes in
theorem of_bind {bound : Option Nat} (core : other.core = app.core)
    (same : (other.thread thread).scopes = (app.thread thread).scopes) :
    Echoes thread id identity (app.bind thread bound) (other.bind thread bound) := by
  have scopes : ∀ app : Application,
      ((app.bind thread bound).thread thread).scopes = (app.thread thread).scopes := fun app => by
    unfold Application.bind
    rw [thread_setThread]
  refine ⟨core, ?_, .inl ?_⟩
  · rw [bound_bind, bound_bind]
  · rw [scopes, scopes, same]

theorem obtain (agent : Nat) :
    Echoes thread id identity (app.obtain thread agent).app (other.obtain thread agent).app ∧
      other.obtain thread agent =
        { app.obtain thread agent with app := (other.obtain thread agent).app } ∧
      ((app.obtain thread agent).created →
        ((other.obtain thread agent).app.thread thread).scopes =
          ((app.obtain thread agent).app.thread thread).scopes) := by
  unfold Application.obtain
  rw [echoes.bound, echoes.contexts]
  cases bound : app.bound thread with
  | some current => exact ⟨echoes, rfl, (nomatch ·)⟩
  | none =>
    have same := echoes.away (by rw [bound]; exact (nomatch ·))
    have created : Echoes thread (app.contexts.length + 1) identity
        ((app.createContext thread agent Zipkin.scopeName).bind thread (some app.contexts.length))
        ((other.createContext thread agent Zipkin.scopeName).bind thread
          (some app.contexts.length)) := by
      refine of_bind (createContext_of_core echoes.core Zipkin.scopeName) ?_
      rw [scopes_of_threads (threads_createContext other thread agent _)
          (other.keepsScopes_createContext thread agent _).stack,
        scopes_of_threads (threads_createContext app thread agent _)
          (app.keepsScopes_createContext thread agent _).stack, same]
    have quiet := created.away (by simp)
    exact ⟨created.anew quiet id, rfl, fun _ => quiet⟩

theorem createOrRelease {obtained : Obtained} (bound : app.bound thread = some obtained.id)
    (fresh : obtained.created → (other.thread thread).scopes = (app.thread thread).scopes)
    (role : Role) (name peer : String) :
    Echoes thread id identity
        (createOrRelease { obtained with app } thread role name peer).1
        (createOrRelease { obtained with app := other } thread role name peer).1 ∧
      (Application.createOrRelease { obtained with app := other } thread role name peer).2 =
        (Application.createOrRelease { obtained with app } thread role name peer).2 := by
  obtain ⟨created, results⟩ := echoes.createSpan bound role name peer
  have stays := congrFun (tends_createSpan app thread obtained.id role name peer).bound thread
  -- The scopes are the same in a context that was created just now.
  have quiet : obtained.created →
      ((other.createSpan thread obtained.id role name peer).1.thread thread).scopes =
        ((app.createSpan thread obtained.id role name peer).1.thread thread).scopes := by
    intro new
    have apart := (echoes.anew (fresh new) (obtained.id + 1)).createSpan bound role name peer
    exact apart.1.away (by rw [stays, bound]; simp)
  unfold Application.createOrRelease
  dsimp only
  revert created results stays quiet
  generalize app.createSpan thread obtained.id role name peer = first
  generalize other.createSpan thread obtained.id role name peer = second
  obtain ⟨first, result⟩ := first
  obtain ⟨second, twinResult⟩ := second
  rintro created ⟨⟩ stays quiet
  cases result with
  | ok span => exact ⟨created, rfl⟩
  | error error =>
    refine ⟨?_, rfl⟩
    dsimp only at created stays quiet ⊢
    unfold releaseUnused
    rw [created.activeSpan (stays.trans bound)]
    split
    · split
      next new => exact of_bind created.core (quiet new)
      next => exact created
    · exact created

theorem enterInner (agent : Nat) (name : String) :
    Echoes thread id identity (app.enterInner thread agent name).1
        (other.enterInner thread agent name).1 ∧
      (other.enterInner thread agent name).2 = (app.enterInner thread agent name).2 := by
  obtain ⟨obtained, same, fresh⟩ := echoes.obtain agent
  unfold Application.enterInner
  rw [same]
  exact obtained.createOrRelease (app.bound_obtain thread agent) fresh _ _ _

theorem enterEntry (agent : Nat) (name : String) (carrier : Option Carrier)
    :
    Echoes thread id identity (app.enterEntry thread agent name carrier).1
        (other.enterEntry thread agent name carrier).1 ∧
      (other.enterEntry thread agent name carrier).2 =
        (app.enterEntry thread agent name carrier).2 := by
  obtain ⟨obtained, same, fresh⟩ := echoes.obtain agent
  have bound := app.bound_obtain thread agent
  unfold Application.enterEntry
  rw [same]
  cases carrier with
  | none =>
    obtain ⟨created, result⟩ := obtained.createOrRelease bound fresh .entry (cutName name) ""
    exact ⟨created, congrArg (none, ·) result⟩
  | some carrier =>
    obtain ⟨extracted, returned⟩ := obtained.extract bound carrier
    have stays := congrFun (tends_extract (app.obtain thread agent).app thread
      (app.obtain thread agent).id carrier).bound thread
    obtain ⟨created, result⟩ := @createOrRelease _ _ _ _ _ extracted (app.obtain thread agent)
      (stays.trans bound) (fun new => by
        have apart := (obtained.anew (fresh new) ((app.obtain thread agent).id + 1)).extract bound
          carrier
        exact apart.1.away (by rw [stays, bound]; simp)) .entry (cutName name) ""
    refine ⟨created, ?_⟩
    dsimp only
    rw [returned, result]

theorem stopSpan_same (same : (other.thread thread).scopes = (app.thread thread).scopes)
    (span : SpanRef) :
    (other.stopSpan thread target span).2 = (app.stopSpan thread target span).2 ∧
      (other.stopSpan thread target span).1.core = (app.stopSpan thread target span).1.core ∧
      (other.stopSpan thread target span).1.bound thread =
        (app.stopSpan thread target span).1.bound thread ∧
      ((other.stopSpan thread target span).1.thread thread).scopes =
        ((app.stopSpan thread target span).1.thread thread).scopes := by
  unfold Application.stopSpan
  rw [echoes.contexts]
  split
  · exact ⟨rfl, echoes.core, echoes.bound, same⟩
  next agent context _ =>
    unfold stopNative
    rw [echoes.now]
    split
    · exact ⟨rfl, echoes.core, echoes.bound, same⟩
    next stopped _ =>
      refine ⟨rfl, report_of_core ?_ _, ?_, ?_⟩
      · exact congrArg (·.setContext target (.native agent stopped.context)) echoes.core
      · rw [bound_report, bound_report]
        exact echoes.bound
      · have reported := fun app : Application =>
          ((keepsScopes_refl app).report agent stopped.report).stack
        rw [scopes_of_threads (threads_report _) (reported _),
          scopes_of_threads (threads_report _) (reported _)]
        exact same
  next context _ =>
    split
    · exact ⟨rfl, echoes.core, echoes.bound, same⟩
    next index =>
      rw [echoes.state_same same, echoes.clock]
      refine ⟨rfl, echoes.core_commitZipkin rfl, ?_, ?_⟩
      · rw [bound_commitZipkin, bound_commitZipkin, echoes.bound]
      · rw [thread_commitZipkin, thread_commitZipkin]

theorem finishSpan_same (same : (other.thread thread).scopes = (app.thread thread).scopes)
    (span : SpanRef) :
    Echoes thread id identity (app.finishSpan thread target span).1
        (other.finishSpan thread target span).1 ∧
      (other.finishSpan thread target span).2 = (app.finishSpan thread target span).2 := by
  obtain ⟨results, core, bound, quiet⟩ := @stopSpan_same _ _ _ _ target _ echoes same span
  unfold Application.finishSpan
  revert results core bound quiet
  generalize app.stopSpan thread target span = first
  generalize other.stopSpan thread target span = second
  obtain ⟨first, result⟩ := first
  obtain ⟨second, twinResult⟩ := second
  rintro ⟨⟩ core bound quiet
  match result with
  | .ok true => exact ⟨of_bind core quiet, rfl⟩
  | .ok false => exact ⟨⟨core, bound, .inl quiet⟩, rfl⟩
  | .error error => exact ⟨⟨core, bound, .inl quiet⟩, rfl⟩

/-- A span of the bound context is stopped alike. It may be that the thread is stranded then. -/
theorem finishSpan (bound : app.bound thread = some target) (span : SpanRef) :
    (Echoes thread id identity (app.finishSpan thread target span).1
          (other.finishSpan thread target span).1 ∨
        Strands thread id identity (app.finishSpan thread target span).1
          (other.finishSpan thread target span).1) ∧
      (other.finishSpan thread target span).2 = (app.finishSpan thread target span).2 := by
  rcases echoes.scopes with same | ⟨home, context, found, busy, _⟩
  · obtain ⟨finished, results⟩ := @finishSpan_same _ _ _ _ target _ echoes same span
    exact ⟨.inl finished, results⟩
  · cases bound.symm.trans home
    have twinFound : other.contexts[id]? = some (.zipkin context) := echoes.contexts ▸ found
    cases span with
    | native owner key =>
      unfold Application.finishSpan Application.stopSpan
      rw [found, twinFound]
      exact ⟨.inl echoes, rfl⟩
    | zipkin index =>
      have works : app.Works thread id (app.zipkinState thread context) := ⟨found, rfl⟩
      have twinWorks : other.Works thread id (other.zipkinState thread context) :=
        ⟨twinFound, rfl⟩
      obtain ⟨idle, rest, after⟩ := (echoes.state bound found).stopSpan app.clock index
      have answer := (app.zipkinState thread context).idle_stopSpan app.clock index
      have core := @core_commitZipkin _ _ _ _ id _ echoes _ _ rest
      unfold Application.finishSpan
      rw [works.stopSpan, twinWorks.stopSpan, echoes.clock, idle]
      cases last : ((app.zipkinState thread context).stopSpan app.clock index).2 with
      | true =>
        -- The last span closes every scope.
        refine ⟨.inl (of_bind core ?_), rfl⟩
        rw [thread_commitZipkin, thread_commitZipkin]
        dsimp only
        exact (echoes.state bound found).scopes_stopSpan busy last
      | false =>
        refine ⟨?_, rfl⟩
        rcases after with echo | bares
        · refine .inl ⟨core, ?_, .inr ⟨?_, _, (works.commit _).found, fun empty => ?_, ?_⟩⟩
          · rw [bound_commitZipkin, bound_commitZipkin, echoes.bound]
          · rw [bound_commitZipkin, home]
          · rw [last, empty] at answer
            cases answer
          · rw [thread_commitZipkin, thread_commitZipkin]
            exact echo
        · refine .inr ⟨core, ?_, ?_, _, (twinWorks.commit _).found, ?_⟩
          · rw [bound_commitZipkin, bound_commitZipkin, echoes.bound]
          · rw [bound_commitZipkin, home]
          · rw [thread_commitZipkin, thread_commitZipkin, rest]
            exact bares

theorem stopBound (span : SpanRef) :
    (Echoes thread id identity (app.stopBound thread span).1 (other.stopBound thread span).1 ∨
        Strands thread id identity (app.stopBound thread span).1
          (other.stopBound thread span).1) ∧
      (other.stopBound thread span).2 = (app.stopBound thread span).2 := by
  unfold Application.stopBound running
  rw [echoes.bound]
  cases bound : app.bound thread with
  | none => exact ⟨.inl echoes, rfl⟩
  | some target => exact echoes.finishSpan bound span

theorem stopActive :
    (Echoes thread id identity (app.stopActive thread).1 (other.stopActive thread).1 ∨
        Strands thread id identity (app.stopActive thread).1 (other.stopActive thread).1) ∧
      (other.stopActive thread).2 = (app.stopActive thread).2 := by
  unfold Application.stopActive running
  rw [echoes.bound]
  cases bound : app.bound thread with
  | none => exact ⟨.inl echoes, rfl⟩
  | some target =>
    dsimp only
    rw [echoes.activeSpan bound]
    cases app.activeSpan thread target with
    | error error => exact ⟨.inl echoes, rfl⟩
    | ok span => exact echoes.finishSpan bound span

omit echoes in
theorem injects_created {created : Application} {role : Role} {name peer : String} {span : SpanRef}
    {carrier : Carrier} {error : TraceError} {state : Zipkin.State}
    (tracing : app.Tracing thread id state) (nested : state.scopes.Nested)
    (creates : app.createSpan thread id role name peer = (created, .ok span)) :
    created.inject thread id carrier ≠ .error error := by
  obtain ⟨index, rfl, valid, _, after⟩ := tracing.createSpan_eq_ok creates
  obtain ⟨_, injected, _⟩ := after.inject_adding nested valid carrier
  rw [injected]
  exact (nomatch ·)

theorem enterExit (agent : Nat) (name peer : String) (carrier : Option Carrier) :
    Echoes thread id identity (app.enterExit thread agent name peer carrier).1
        (other.enterExit thread agent name peer carrier).1 ∧
      (other.enterExit thread agent name peer carrier).2 =
        (app.enterExit thread agent name peer carrier).2 := by
  obtain ⟨obtained, same, fresh⟩ := echoes.obtain agent
  have bound := app.bound_obtain thread agent
  have creating := fun target (echoes : Echoes thread target identity _ _) =>
    @createOrRelease _ _ _ _ _ echoes (app.obtain thread agent) bound fresh .exit (cutName name) peer
  obtain ⟨created, results⟩ := creating id obtained
  have apart := creating ((app.obtain thread agent).id + 1)
  have stays := @bound_createOrRelease thread (app.obtain thread agent) .exit (cutName name) peer
  have creates := @createOrRelease_eq_ok (app.obtain thread agent) thread .exit (cutName name) peer
  unfold Application.enterExit
  dsimp only
  rw [same]
  revert created results apart stays creates
  generalize Application.createOrRelease { app.obtain thread agent with
    app := (app.obtain thread agent).app } thread .exit (cutName name) peer = first
  generalize Application.createOrRelease { app.obtain thread agent with
    app := (other.obtain thread agent).app } thread .exit (cutName name) peer = second
  obtain ⟨first, result⟩ := first
  obtain ⟨second, twinResult⟩ := second
  rintro created ⟨⟩ apart stays creates
  match result, carrier with
  | .error error, _ => exact ⟨created, rfl⟩
  | .ok span, none => exact ⟨created, rfl⟩
  | .ok span, some carrier =>
    have here : first.bound thread = some (app.obtain thread agent).id := stays bound rfl
    dsimp only
    rw [created.inject here carrier]
    cases injects : first.inject thread (app.obtain thread agent).id carrier with
    | ok prepared => exact ⟨created, rfl⟩
    | error error =>
      refine ⟨?_, rfl⟩
      rcases obtained.quiet_or_nested with quiet | ⟨home, context, found, nested⟩
      · have equal := (apart (obtained.anew quiet _)).1.away (by rw [here]; simp)
        exact (created.finishSpan_same equal span).1
      · -- The Zipkin context would have prepared the carrier.
        cases bound.symm.trans home
        exact absurd injects (injects_created (.of_found bound found) nested (creates.mp rfl))

theorem enter (agent : Nat) (role : Role) (name peer : String) (carrier : Option Carrier)
    :
    Echoes thread id identity (app.enter thread agent role name peer carrier).1
        (other.enter thread agent role name peer carrier).1 ∧
      (other.enter thread agent role name peer carrier).2 =
        (app.enter thread agent role name peer carrier).2 := by
  cases role with
  | entry => exact echoes.enterEntry agent name carrier
  | exit => exact echoes.enterExit agent name peer carrier
  | inner =>
    obtain ⟨entered, result⟩ := echoes.enterInner agent name
    exact ⟨entered, congrArg (carrier, ·) result⟩

theorem captureBound : other.captureBound thread = app.captureBound thread := by
  unfold Application.captureBound running
  rw [echoes.bound]
  cases bound : app.bound thread with
  | none => rfl
  | some target => exact echoes.capture bound

theorem injectBound (carrier : Carrier) :
    other.injectBound thread carrier = app.injectBound thread carrier := by
  unfold Application.injectBound running
  rw [echoes.bound]
  cases bound : app.bound thread with
  | none => rfl
  | some target => exact echoes.inject bound carrier

theorem activeBound : other.activeBound thread = app.activeBound thread := by
  unfold Application.activeBound
  rw [echoes.bound]
  cases bound : app.bound thread with
  | none => rfl
  | some target => exact echoes.activeSpan bound

theorem boundTraceId : other.boundTraceId thread = app.boundTraceId thread := by
  unfold Application.boundTraceId
  rw [echoes.bound]
  cases bound : app.bound thread with
  | none => rfl
  | some target => exact echoes.traceIdText bound

theorem boundCorrelation? : other.boundCorrelation? thread = app.boundCorrelation? thread := by
  unfold Application.boundCorrelation?
  rw [echoes.bound]
  exact congrArg (Option.map · _) (funext fun target => echoes.correlation)

theorem isActive : other.isActive thread = app.isActive thread := by
  unfold Application.isActive
  rw [echoes.bound]

theorem extractBound (carrier : Carrier) :
    Echoes thread id identity (app.extractBound thread carrier).1
        (other.extractBound thread carrier).1 ∧
      (other.extractBound thread carrier).2 = (app.extractBound thread carrier).2 := by
  unfold Application.extractBound running
  rw [echoes.bound]
  cases bound : app.bound thread with
  | none => exact ⟨echoes, rfl⟩
  | some target =>
    obtain ⟨extracted, returned⟩ := echoes.extract bound carrier
    exact ⟨extracted, Prod.ext returned rfl⟩

theorem resumeBound (agent : Nat) (snapshot : Snapshot) :
    Echoes thread id identity (app.resumeBound thread agent snapshot)
      (other.resumeBound thread agent snapshot) := by
  have current : other.isFromCurrent thread snapshot = app.isFromCurrent thread snapshot := by
    unfold isFromCurrent
    rw [echoes.captureBound]
  unfold Application.resumeBound
  rw [current]
  split
  · exact echoes.note _ _
  · obtain ⟨obtained, same, _⟩ := echoes.obtain agent
    rw [same]
    exact obtained.resume (app.bound_obtain thread agent) snapshot

/-- A call goes the same way in both processes. Only a stop may leave the thread stranded. -/
theorem performBound (agent : Nat) (command : Command) :
    (Echoes thread id identity (app.performBound thread agent command).app
          (other.performBound thread agent command).app ∨
        Strands thread id identity (app.performBound thread agent command).app
          (other.performBound thread agent command).app) ∧
      (other.performBound thread agent command).carrier =
        (app.performBound thread agent command).carrier ∧
      (other.performBound thread agent command).result =
        (app.performBound thread agent command).result := by
  cases command with
  | create role name peer carrier =>
    obtain ⟨entered, same⟩ := echoes.enter agent role name peer carrier
    unfold Application.performBound
    dsimp only
    revert entered same
    generalize app.enter thread agent role name peer carrier = first
    generalize other.enter thread agent role name peer carrier = second
    obtain ⟨first, returned⟩ := first
    obtain ⟨second, twinReturned⟩ := second
    rintro entered ⟨⟩
    exact ⟨.inl entered, rfl, rfl⟩
  | active => exact ⟨.inl echoes, rfl, congrArg (Except.map Answer.span) echoes.activeBound⟩
  | stop span =>
    cases span with
    | none =>
      obtain ⟨stopped, same⟩ := echoes.stopActive
      refine ⟨stopped, rfl, ?_⟩
      change (other.stopActive thread).2.map _ = _
      rw [same]
      rfl
    | some span =>
      obtain ⟨stopped, same⟩ := echoes.stopBound span
      refine ⟨stopped, rfl, ?_⟩
      change (other.stopBound thread span).2.map _ = _
      rw [same]
      rfl
  | inject carrier =>
    unfold Application.performBound
    dsimp only
    rw [echoes.injectBound]
    split <;> exact ⟨.inl echoes, rfl, rfl⟩
  | extract carrier =>
    obtain ⟨extracted, same⟩ := echoes.extractBound carrier
    unfold Application.performBound
    dsimp only
    revert extracted same
    generalize app.extractBound thread carrier = first
    generalize other.extractBound thread carrier = second
    obtain ⟨first, returned⟩ := first
    obtain ⟨second, twinReturned⟩ := second
    rintro extracted ⟨⟩
    exact ⟨.inl extracted, rfl, rfl⟩
  | capture => exact ⟨.inl echoes, rfl, congrArg (Except.map Answer.snapshot) echoes.captureBound⟩
  | resume snapshot => exact ⟨.inl (echoes.resumeBound agent snapshot), rfl, rfl⟩
  | traceId => exact ⟨.inl echoes, rfl, congrArg (Except.ok ∘ Answer.traceId) echoes.boundTraceId⟩
  | correlation =>
    exact ⟨.inl echoes, rfl, congrArg (Except.ok ∘ Answer.correlation) echoes.boundCorrelation?⟩

end Echoes

end Application

end TraceAgent
