import TraceAgent.Application.Agents
import TraceAgent.Application.Spans
import TraceAgent.Proofs.Application.Steps
import TraceAgent.Proofs.Dictionary
import TraceAgent.Proofs.Native.Run

/-! How a process evolves.

Whatever the application calls, each native context of the process does a run of
its own, and new contexts begin with the settings of their agent, which stay as
they are. So what holds of every native context that a run leads to holds of the
native contexts of every process.
-/

set_option autoImplicit false

namespace TraceAgent

open Propagation
open Segment (Role Remark)

inductive Event where
  | addNative (config : AgentConfig) (ids : IdSource) (reporter : Reporter)
  | addZipkin (config : AgentConfig) (propagator : Telemetry.Propagator)
      (provider : Telemetry.Provider)
  | addSelected (config : AgentConfig) (propagator : Telemetry.Propagator)
      (provider : Telemetry.Provider)
  | setClock (clock : Int)
  | createContext (thread agent : Nat) (scope : String)
  | perform (thread : Nat) (target : Target) (command : Command)
  | annotate (span : SpanRef) (remark : Remark)
  | applyFlags (span : SpanRef) (extension : Extension)
  | prepareAsync (span : SpanRef)
  | finishAsync (span : SpanRef)
  | asyncStop (thread id : Nat) (span : SpanRef)
  | awaitCompletion (id : Nat)
  | adopt (thread id : Nat) (started : Telemetry.Context)
  | startDetached (agent : Nat) (scope name : String) (parent : Telemetry.Context)
  | shutDown (agent : Nat)
  | clearReports (agent : Nat)
  | hold (id : Nat)
  | release (id : Nat)
  | endThread (thread : Nat)
  | note (diagnostics : List Diagnostic)

namespace Application

def after (app : Application) : Event → Application
  | .addNative config ids reporter => app.addNative config ids reporter
  | .addZipkin config propagator provider => app.addZipkin config propagator provider
  | .addSelected config propagator provider => app.addSelected config propagator provider
  | .setClock clock => { app with clock }
  | .createContext thread agent scope => app.createContext thread agent scope
  | .perform thread target command => (app.perform thread target command).app
  | .annotate span remark => (app.annotate span remark).1
  | .applyFlags span extension => app.applyFlags span extension
  | .prepareAsync span => (app.prepareAsync span).1
  | .finishAsync span => (app.finishAsync span).1
  | .asyncStop thread id span => (app.asyncStop thread id span).1
  | .awaitCompletion id => app.awaitCompletion id
  | .adopt thread id started => ((app.adopt thread id started).map (·.1)).getD app
  | .startDetached agent scope name parent =>
      ((app.startDetached agent scope name parent).map (·.1)).getD app
  | .shutDown agent => ((app.shutDown agent).map (·.1)).getD app
  | .clearReports agent => app.clearReports agent
  | .hold id => app.hold id
  | .release id => app.release id
  | .endThread thread => app.endThread thread
  | .note diagnostics => app.note diagnostics

/-- A process that some events lead to. -/
def Reachable (app : Application) : Prop :=
  ∃ clock seed stack events, app = List.foldl after (.begin clock seed stack) events

def configs (app : Application) : List AgentConfig := app.agents.map (·.config)

variable {app later : Application} {thread agent id : Nat}

@[simp] theorem contexts_note (diagnostics : List Diagnostic) :
    (app.note diagnostics).contexts = app.contexts := rfl

@[simp] theorem contexts_bind (bound : Option Nat) :
    (app.bind thread bound).contexts = app.contexts := rfl

@[simp] theorem contexts_drawId : (app.drawId thread agent).1.contexts = app.contexts := by
  unfold drawId
  split <;> rfl

@[simp] theorem contexts_drawMoment :
    (app.drawMoment thread agent).1.contexts = app.contexts := by
  unfold drawMoment
  rw [contexts_drawId, contexts_drawId]

@[simp] theorem contexts_commit (before next : Native.Context) :
    (app.commit thread agent id before next).contexts =
      app.contexts.set id (.native agent next) := by
  unfold commit setContext
  dsimp only
  split
  · rw [contexts_drawMoment]
  · rfl

@[simp] theorem contexts_report (report : Option Segment) :
    (app.report agent report).contexts = app.contexts := by
  unfold Application.report collect
  split
  · rfl
  · split <;> rfl

@[simp] theorem contexts_commitZipkin (state : Zipkin.State) :
    (app.commitZipkin thread id state).contexts =
      app.contexts.set id (.zipkin state.context) := rfl

theorem bound_of_threads (same : later.threads = app.threads) : later.bound = app.bound := by
  funext thread
  unfold bound Application.thread
  rw [same]
  cases app.threads.lookup thread <;> rfl

@[simp] theorem thread_setThread (state : Thread) :
    (app.setThread thread state).thread thread = state := by
  unfold Application.thread setThread
  rw [List.lookup_cons_self]
  rfl

theorem thread_setThread_of_ne {other : Nat} (state : Thread) (apart : other ≠ thread) :
    (app.setThread thread state).thread other = app.thread other := by
  unfold Application.thread setThread
  dsimp only
  rw [List.lookup_cons, show (other == thread) = false by simp [apart]]
  exact congrArg (Option.getD · _) (lookup_filter_ne app.threads apart)

@[simp] theorem bound_bind (target : Option Nat) : (app.bind thread target).bound thread = target :=
  congrArg Thread.bound (thread_setThread _)

@[simp] theorem bound_note (diagnostics : List Diagnostic) :
    (app.note diagnostics).bound = app.bound := rfl

theorem threads_drawId : (app.drawId thread agent).1.threads = app.threads := by
  unfold drawId
  split <;> rfl

theorem threads_drawMoment : (app.drawMoment thread agent).1.threads = app.threads :=
  threads_drawId.trans threads_drawId

theorem threads_commit (before next : Native.Context) :
    (app.commit thread agent id before next).threads = app.threads := by
  unfold commit
  dsimp only
  split
  · exact threads_drawMoment
  · rfl

theorem threads_report (report : Option Segment) :
    (app.report agent report).threads = app.threads := by
  unfold Application.report collect
  split
  · rfl
  · split <;> rfl

theorem threads_createContext (app : Application) (thread agent : Nat) (scope : String) :
    (app.createContext thread agent scope).threads = app.threads := by
  unfold createContext
  split
  · rfl
  · exact threads_drawMoment
  · rfl

theorem clock_drawId : (app.drawId thread agent).1.clock = app.clock := by
  unfold drawId
  split <;> rfl

theorem clock_drawMoment : (app.drawMoment thread agent).1.clock = app.clock :=
  clock_drawId.trans clock_drawId

theorem clock_commit (app : Application) (thread agent id : Nat) (before next : Native.Context) :
    (app.commit thread agent id before next).clock = app.clock := by
  unfold commit
  dsimp only
  split
  · exact clock_drawMoment
  · rfl

theorem clock_createContext (app : Application) (thread agent : Nat) (scope : String) :
    (app.createContext thread agent scope).clock = app.clock := by
  unfold createContext
  split
  · rfl
  · exact clock_drawMoment
  · rfl

@[simp] theorem bound_commit (before next : Native.Context) :
    (app.commit thread agent id before next).bound = app.bound :=
  bound_of_threads (threads_commit before next)

@[simp] theorem bound_report (report : Option Segment) :
    (app.report agent report).bound = app.bound := bound_of_threads (threads_report report)

@[simp] theorem thread_commitZipkin (state : Zipkin.State) :
    (app.commitZipkin thread id state).thread thread =
      { app.thread thread with scopes := state.scopes } := thread_setThread _

@[simp] theorem bound_commitZipkin (state : Zipkin.State) :
    (app.commitZipkin thread id state).bound = app.bound := by
  funext other
  by_cases same : other = thread
  · rw [same]
    have kept := congrArg Thread.bound (@thread_commitZipkin app thread id state)
    exact kept
  · exact congrArg Thread.bound (thread_setThread_of_ne _ same)

@[simp] theorem configs_note (diagnostics : List Diagnostic) :
    (app.note diagnostics).configs = app.configs := rfl

@[simp] theorem configs_setTracer (tracer : Tracer) :
    (app.setTracer agent tracer).configs = app.configs := by
  refine List.ext_getElem? fun index => ?_
  simp only [configs, setTracer, List.getElem?_map, List.getElem?_modify]
  split
  · rw [Option.map_eq_map, Option.map_map]
    rfl
  · simp

@[simp] theorem configs_drawId : (app.drawId thread agent).1.configs = app.configs := by
  unfold drawId
  split
  · exact configs_setTracer _
  · rfl
  · exact configs_setTracer _
  · rfl
  · rfl

@[simp] theorem configs_drawMoment :
    (app.drawMoment thread agent).1.configs = app.configs := by
  unfold drawMoment
  exact configs_drawId.trans configs_drawId

@[simp] theorem configs_commit (before next : Native.Context) :
    (app.commit thread agent id before next).configs = app.configs := by
  unfold commit
  dsimp only
  split
  · exact configs_drawMoment
  · rfl

@[simp] theorem configs_report (report : Option Segment) :
    (app.report agent report).configs = app.configs := by
  unfold Application.report collect
  split
  · rfl
  · split
    · exact configs_setTracer _
    all_goals rfl

/-- Contexts and settings stay, each native context does a run, and a new native one is begun by
its agent. -/
structure Evolves (app later : Application) : Prop where
  grows : app.contexts.length ≤ later.contexts.length
  settings : app.configs <+: later.configs
  native : ∀ id agent context, later.contexts[id]? = some (.native agent context) →
    (∃ earlier steps, app.contexts[id]? = some (.native agent earlier) ∧
      context = earlier.run steps) ∨
    (app.contexts.length ≤ id ∧ ∃ config, later.configs[agent]? = some config ∧
      context.BegunBy config)

namespace Evolves

theorem of_contexts (same : later.contexts = app.contexts)
    (settings : app.configs <+: later.configs) : Evolves app later where
  grows := Nat.le_of_eq (by rw [same])
  settings := settings
  native := by
    intro id agent context found
    rw [same] at found
    exact .inl ⟨context, [], found, rfl⟩

theorem config {config : AgentConfig} (evolves : Evolves app later)
    (set : app.configs[agent]? = some config) : later.configs[agent]? = some config := by
  obtain ⟨rest, same⟩ := evolves.settings
  obtain ⟨bound, _⟩ := List.getElem?_eq_some_iff.mp set
  rw [← same, List.getElem?_append_left bound, set]

theorem trans {last : Application} (first : Evolves app later) (second : Evolves later last) :
    Evolves app last where
  grows := Nat.le_trans first.grows second.grows
  settings := first.settings.trans second.settings
  native := by
    intro id agent context found
    -- What ran before the second evolution ran before both, or began with the first.
    rcases second.native id agent context found with ⟨middle, steps, here, rfl⟩ | ⟨beyond, new⟩
    · rcases first.native id agent middle here with
        ⟨earlier, before, there, rfl⟩ | ⟨beyond, config, set, begun⟩
      · exact .inl ⟨earlier, before ++ steps, there, (Native.Context.run_append _ _ _).symm⟩
      · exact .inr ⟨beyond, config, second.config set, begun.run steps⟩
    · exact .inr ⟨Nat.le_trans first.grows beyond, new⟩

theorem of_agent (added : Agent) (same : later.contexts = app.contexts)
    (grown : later.agents = app.agents ++ [added]) : Evolves app later :=
  .of_contexts same (by
    unfold configs
    rw [grown, List.map_append]
    exact List.prefix_append _ _)

theorem of_run {context : Native.Context} (found : app.contexts[id]? = some (.native agent context))
    (steps : List Native.Step)
    (changed : later.contexts = app.contexts.set id (.native agent (context.run steps)))
    (settings : later.configs = app.configs) : Evolves app later where
  grows := Nat.le_of_eq (by rw [changed, List.length_set])
  settings := settings ▸ List.prefix_refl _
  native := by
    intro other owner next here
    rw [changed, List.getElem?_set] at here
    split at here
    next same =>
      split at here
      · cases here
        exact .inl ⟨context, steps, same ▸ found, rfl⟩
      · cases here
    next => exact .inl ⟨next, [], here, rfl⟩

theorem of_zipkin {next : Zipkin.Context}
    (changed : later.contexts = app.contexts.set id (.zipkin next))
    (settings : later.configs = app.configs) : Evolves app later where
  grows := Nat.le_of_eq (by rw [changed, List.length_set])
  settings := settings ▸ List.prefix_refl _
  native := by
    intro other owner context here
    rw [changed, List.getElem?_set] at here
    split at here
    · split at here <;> cases here
    · exact .inl ⟨context, [], here, rfl⟩

theorem of_append (added : TracingContext)
    (new : ∀ agent context, added = .native agent context →
      ∃ config, later.configs[agent]? = some config ∧ context.BegunBy config)
    (changed : later.contexts = app.contexts ++ [added])
    (settings : later.configs = app.configs) : Evolves app later where
  grows := by rw [changed, List.length_append]; exact Nat.le_add_right _ _
  settings := settings ▸ List.prefix_refl _
  native := by
    intro other owner context here
    rw [changed, List.getElem?_append] at here
    split at here
    · exact .inl ⟨context, [], here, rfl⟩
    next beyond =>
      have member := List.mem_of_getElem? here
      exact .inr ⟨Nat.le_of_not_lt beyond, new owner context (List.mem_singleton.mp member).symm⟩

end Evolves

theorem evolves_refl (app : Application) : Evolves app app := .of_contexts rfl (List.prefix_refl _)

variable (app)

theorem evolves_createContext (thread agent : Nat) (scope : String) :
    Evolves app (app.createContext thread agent scope) := by
  unfold createContext
  split
  · exact evolves_refl app
  next config ids reporter set =>
    -- The new context has not done anything yet.
    refine .of_append (.native agent (.begin config (app.drawMoment thread agent).2)) ?_ ?_ ?_
    · rintro _ _ ⟨⟩
      refine ⟨config, ?_, _, [], rfl⟩
      change (app.drawMoment thread agent).1.configs[agent]? = some config
      rw [configs_drawMoment, configs, List.getElem?_map, set]
      rfl
    · exact congrArg (· ++ _) contexts_drawMoment
    · exact configs_drawMoment
  next config provider propagator _ =>
    refine .of_append _ ?_ rfl rfl
    exact fun _ _ => (nomatch ·)

theorem evolves_createSpan (thread id : Nat) (role : Role) (name peer : String) :
    Evolves app (app.createSpan thread id role name peer).1 := by
  unfold createSpan
  split
  · exact evolves_refl app
  next agent context found =>
    exact .of_run found [(app.moment thread agent, .create role name peer)] (contexts_commit _ _)
      (configs_commit _ _)
  next => exact .of_zipkin (contexts_commitZipkin _) rfl

theorem evolves_stopSpan (thread id : Nat) (span : SpanRef) :
    Evolves app (app.stopSpan thread id span).1 := by
  unfold stopSpan
  split
  · exact evolves_refl app
  next agent context found =>
    unfold stopNative
    cases stopped : context.stopSpan app.now (argument id span) with
    | error => exact evolves_refl app
    | ok after =>
      -- Stopping reads the time only, so the ids of the moment do not matter.
      refine .of_run found [(⟨app.now, "", ""⟩, .stop (argument id span))] ?_ (configs_report _)
      dsimp only
      rw [contexts_report, Native.Context.run_cons]
      simp [setContext, Native.Context.perform, stopped]
  next =>
    split
    · exact evolves_refl app
    · exact .of_zipkin (contexts_commitZipkin _) rfl

theorem evolves_asyncStop (thread id : Nat) (span : SpanRef) :
    Evolves app (app.asyncStop thread id span).1 := by
  unfold asyncStop
  split
  · exact evolves_refl app
  next agent context found =>
    cases stopped : context.asyncStop (argument id span) with
    | error => exact evolves_refl app
    | ok after =>
      refine .of_run found [(⟨app.now, "", ""⟩, .asyncStop (argument id span))] ?_
        (configs_report _)
      dsimp only
      rw [contexts_report, contexts_note, Native.Context.run_cons]
      simp [setContext, Native.Context.perform, Native.Context.attempt, stopped]
  next =>
    split
    · exact evolves_refl app
    · exact .of_zipkin (contexts_commitZipkin _) rfl

theorem evolves_awaitCompletion (id : Nat) : Evolves app (app.awaitCompletion id) := by
  unfold awaitCompletion
  split
  next agent context found =>
    exact .of_run found [(⟨app.now, "", ""⟩, .awaitCompletion)] rfl rfl
  · exact evolves_refl app
  · exact evolves_refl app

theorem evolves_extract (thread id : Nat) (carrier : Carrier) :
    Evolves app (app.extract thread id carrier).1 := by
  unfold extract
  split
  · exact evolves_refl app
  next agent context found =>
    exact .of_run found [(app.moment thread agent, .extract carrier)] (contexts_commit _ _)
      ((configs_note _).trans (configs_commit _ _))
  next => exact .of_zipkin (contexts_commitZipkin _) rfl

theorem evolves_resume (thread id : Nat) (snapshot : Snapshot) :
    Evolves app (app.resume thread id snapshot) := by
  unfold resume
  split
  · exact evolves_refl app
  next agent context found =>
    exact .of_run found [(app.moment thread agent, .resume snapshot)] (contexts_commit _ _)
      ((configs_note _).trans (configs_commit _ _))
  next => exact .of_zipkin (contexts_commitZipkin _) rfl

theorem evolves_adopt {thread id : Nat} {started : Telemetry.Context}
    {adopted : Application × Except TraceError SpanRef}
    (found : app.adopt thread id started = some adopted) : Evolves app adopted.1 := by
  unfold adopt at found
  split at found
  · cases found
    split
    · exact evolves_refl app
    · exact .of_zipkin (contexts_commitZipkin _) rfl
  all_goals cases found

theorem evolves_links (thread : Nat) : LinksSteps thread Evolves where
  refl := evolves_refl
  trans := .trans
  note _ _ := .of_contexts rfl (List.prefix_refl _)
  bind _ _ := .of_contexts rfl (List.prefix_refl _)
  createContext app := evolves_createContext app thread
  createSpan app := evolves_createSpan app thread
  stopSpan app := evolves_stopSpan app thread
  extract app := evolves_extract app thread
  resume app := evolves_resume app thread

theorem evolves_editNative (id : Nat) (key : Native.SpanKey) {edit : Native.Span → Native.Span}
    (operation : Native.Operation) (moment : Native.Moment)
    (same : ∀ context : Native.Context, context.modifySpan key edit =
      (context.perform moment operation).context) :
    Evolves app (app.editNative id key edit) := by
  unfold editNative
  split
  next agent context found =>
    refine .of_run found [(moment, operation)] ?_ rfl
    rw [Native.Context.run_cons, Native.Context.run_nil, ← same]
    rfl
  · exact evolves_refl app
  · exact evolves_refl app

theorem evolves_changeZipkin (index : Nat) (change : Telemetry.Change) :
    Evolves app (app.changeZipkin index change) := by
  unfold changeZipkin
  split <;> exact .of_contexts rfl (List.prefix_refl _)

theorem related_changes {related : Application → Application → Prop} {index : Nat}
    (refl : ∀ app, related app app)
    (trans : ∀ {app later last}, related app later → related later last → related app last)
    (change : ∀ app change, related app (app.changeZipkin index change))
    (changes : List Telemetry.Change) (app : Application) :
    related app (changes.foldl (·.changeZipkin index ·) app) := by
  induction changes generalizing app with
  | nil => exact refl app
  | cons first rest ih => exact trans (change app first) (ih _)

theorem evolves_annotate (span : SpanRef) (remark : Remark) :
    Evolves app (app.annotate span remark).1 := by
  cases span with
  | native id key =>
    exact evolves_editNative _ id key (.annotate key remark) ⟨app.now, "", ""⟩ fun _ => rfl
  | zipkin index =>
    unfold annotate
    dsimp only
    split
    · exact evolves_refl app
    · exact (related_changes evolves_refl .trans (fun app => evolves_changeZipkin app index) _ _).trans
        (.of_contexts rfl (List.prefix_refl _))

theorem evolves_applyFlags (span : SpanRef) (extension : Extension) :
    Evolves app (app.applyFlags span extension) := by
  cases span with
  | native id key =>
    exact evolves_editNative _ id key (.applyFlags key extension) ⟨app.now, "", ""⟩ fun _ => rfl
  | zipkin index =>
    unfold applyFlags
    dsimp only
    split
    · exact evolves_changeZipkin app index _
    · exact evolves_refl app

theorem evolves_prepareAsync (span : SpanRef) : Evolves app (app.prepareAsync span).1 := by
  cases span with
  | native id key =>
    unfold prepareAsync
    dsimp only
    split
    · exact evolves_refl app
    · split
      next agent context found =>
        cases prepared : context.prepareAsync key with
        | error => exact evolves_refl app
        | ok next =>
          refine .of_run found [(⟨app.now, "", ""⟩, .prepare key)] ?_ rfl
          rw [Native.Context.run_cons]
          simp [setContext, Native.Context.perform, Native.Context.attempt, prepared, Except.map]
      · exact evolves_refl app
      · exact evolves_refl app
  | zipkin index => exact .of_contexts rfl (List.prefix_refl _)

theorem evolves_finishAsync (span : SpanRef) : Evolves app (app.finishAsync span).1 := by
  cases span with
  | native id key =>
    unfold finishAsync
    dsimp only
    split
    next agent context found =>
      cases finished : context.finishAsync app.now key with
      | error => exact evolves_refl app
      | ok next =>
        refine .of_run found [(⟨app.now, "", ""⟩, .finish key)] ?_ (configs_report _)
        dsimp only
        rw [contexts_report, contexts_note, Native.Context.run_cons]
        simp [setContext, Native.Context.perform, Native.Context.attempt, finished]
    · exact evolves_refl app
    · exact evolves_refl app
  | zipkin index =>
    unfold finishAsync finishZipkin
    dsimp only
    split <;> exact .of_contexts rfl (List.prefix_refl _)

/-- Every event is an evolution. -/
theorem evolves_after (event : Event) : Evolves app (app.after event) := by
  cases event with
  | createContext thread agent scope => exact evolves_createContext _ thread agent scope
  | perform thread target command => exact (evolves_links thread).perform app target command
  | annotate span remark => exact evolves_annotate _ span remark
  | applyFlags span extension => exact evolves_applyFlags _ span extension
  | prepareAsync span => exact evolves_prepareAsync _ span
  | finishAsync span => exact evolves_finishAsync _ span
  | asyncStop thread id span => exact evolves_asyncStop _ thread id span
  | awaitCompletion id => exact evolves_awaitCompletion _ id
  | adopt thread id started =>
    change Evolves app (((app.adopt thread id started).map (·.1)).getD app)
    cases adopted : app.adopt thread id started with
    | none => exact evolves_refl app
    | some outcome => exact evolves_adopt app adopted
  | addSelected config propagator provider =>
    change Evolves app (app.addSelected config propagator provider)
    unfold addSelected
    dsimp only
    split <;> exact .of_agent _ rfl rfl
  | addNative config ids reporter => exact .of_agent _ rfl rfl
  | addZipkin config propagator provider => exact .of_agent _ rfl rfl
  | clearReports agent =>
    change Evolves app (app.clearReports agent)
    unfold clearReports
    split
    · exact .of_contexts rfl (configs_setTracer _ ▸ List.prefix_refl _)
    all_goals exact evolves_refl app
  | startDetached agent scope name parent =>
    change Evolves app (((app.startDetached agent scope name parent).map (·.1)).getD app)
    unfold startDetached
    cases app.provider? agent <;> exact .of_contexts rfl (List.prefix_refl _)
  | shutDown agent =>
    change Evolves app (((app.shutDown agent).map (·.1)).getD app)
    unfold shutDown
    cases app.provider? agent <;> exact .of_contexts rfl (List.prefix_refl _)
  | _ => exact .of_contexts rfl (List.prefix_refl _)

theorem evolves_foldl (events : List Event) : Evolves app (events.foldl after app) := by
  induction events generalizing app with
  | nil => exact evolves_refl app
  | cons event rest ih => exact (evolves_after app event).trans (ih _)

variable {app}

/-- The native contexts of a process were begun by their agents. -/
theorem Reachable.begun (reachable : app.Reachable) {context : Native.Context}
    (found : app.contexts[id]? = some (.native agent context)) :
    ∃ config, app.configs[agent]? = some config ∧ context.BegunBy config := by
  obtain ⟨clock, seed, stack, events, rfl⟩ := reachable
  rcases (evolves_foldl _ events).native id agent context found with ⟨_, _, here, _⟩ | ⟨_, new⟩
  · cases here
  · exact new

theorem Reachable.native (reachable : app.Reachable) {context : Native.Context}
    (found : app.contexts[id]? = some (.native agent context)) : context.Reachable := by
  obtain ⟨config, _, begun⟩ := reachable.begun found
  exact begun.reachable

theorem Reachable.evolves {context : Native.Context} (reachable : app.Reachable)
    (evolves : Evolves app later) (found : later.contexts[id]? = some (.native agent context)) :
    context.Reachable := by
  rcases evolves.native id agent context found with
    ⟨earlier, steps, here, rfl⟩ | ⟨_, config, _, begun⟩
  · exact (reachable.native here).run steps
  · exact begun.reachable

end Application

end TraceAgent
