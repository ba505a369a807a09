import TraceAgent.Proofs.Application.Evolution
import TraceAgent.Proofs.Zipkin.State

/-! The scopes of the threads of a process.

If the stack that a thread starts with shows the latest of the attached contexts,
the scopes of every thread are nested in every process: no operation attaches a
context without a scope, or closes a scope without its context.
-/

set_option autoImplicit false

namespace TraceAgent

open Propagation
open Segment (Role)

namespace Zipkin.State

variable {state : State} {span : Span}

theorem nested_startSpan (nested : state.scopes.Nested) (now : Int) (kind : Telemetry.Kind)
    (name : String) (use : Span → Span) :
    (state.startSpan now kind name use).1.scopes.Nested := by
  unfold startSpan
  dsimp only
  split
  next registered _ result =>
    obtain ⟨_, _, rfl, _⟩ := register_eq_ok.mp result
    exact nested.openFor _
  next => exact nested

theorem scopes_changeSpan (state : State) (index : Nat) (change : Telemetry.Change) :
    (state.changeSpan index change).scopes = state.scopes := by
  unfold changeSpan
  split <;> rfl

theorem nested_startExit (nested : state.scopes.Nested) (now : Int) (name peer : String) :
    (state.startExit now name peer).1.scopes.Nested := by
  have started := nested_startSpan nested now .client name ({ · with isExit := true })
  unfold startExit
  split
  next result =>
    rw [result] at started
    dsimp only
    rw [scopes_changeSpan]
    exact started
  next result =>
    rw [result] at started
    exact started

theorem scopes_finishSpan (state : State) (now : Int) (index : Nat) :
    (state.finishSpan now index).scopes = state.scopes := by
  unfold finishSpan
  split <;> rfl

theorem nested_stopSpan (nested : state.scopes.Nested) (now : Int) (index : Nat) :
    (state.stopSpan now index).1.scopes.Nested := by
  unfold stopSpan
  split
  · exact nested
  · dsimp only
    split
    · exact (nested.close _).closeAll
    · exact nested.close _

theorem nested_resume (nested : state.scopes.Nested) (snapshot : Snapshot) :
    (state.resume snapshot).scopes.Nested := by
  unfold resume
  dsimp only
  split
  · exact nested.attach _
  · exact nested

end Zipkin.State

namespace Application

variable {app later last : Application} {thread agent id : Nat}

/-- Threads start with the same stack, and scopes that were nested are so later on. -/
structure KeepsScopes (app later : Application) : Prop where
  stack : later.stack = app.stack
  nested : app.stack.ShowsLatest → (∀ thread, (app.thread thread).scopes.Nested) →
    ∀ thread, (later.thread thread).scopes.Nested

namespace KeepsScopes

theorem of_threads (threads : later.threads = app.threads) (stack : later.stack = app.stack) :
    KeepsScopes app later := by
  refine ⟨stack, fun _ nested thread => ?_⟩
  unfold Application.thread
  rw [threads, stack]
  exact nested thread

theorem trans (first : KeepsScopes app later) (second : KeepsScopes later last) :
    KeepsScopes app last :=
  ⟨second.stack.trans first.stack, fun shows nested =>
    second.nested (first.stack ▸ shows) (first.nested shows nested)⟩

theorem of_setThread {state : Thread}
    (nested : (app.thread thread).scopes.Nested → state.scopes.Nested) :
    KeepsScopes app (app.setThread thread state) := by
  refine ⟨rfl, fun _ before other => ?_⟩
  by_cases same : other = thread
  · subst same
    rw [thread_setThread]
    exact nested (before other)
  · rw [thread_setThread_of_ne state same]
    exact before other

theorem of_commit {context : Zipkin.Context} {state : Zipkin.State}
    (nested : (app.zipkinState thread context).scopes.Nested → state.scopes.Nested) :
    KeepsScopes app (app.commitZipkin thread id state) := by
  have set : KeepsScopes app
      (app.setThread thread { app.thread thread with scopes := state.scopes }) :=
    .of_setThread nested
  exact set.trans (.of_threads rfl rfl)

end KeepsScopes

theorem keepsScopes_refl (app : Application) : KeepsScopes app app := .of_threads rfl rfl

theorem keepsScopes_bind (app : Application) (thread : Nat) (target : Option Nat) :
    KeepsScopes app (app.bind thread target) := .of_setThread id

theorem stack_drawId : (app.drawId thread agent).1.stack = app.stack := by
  unfold drawId
  split <;> rfl

theorem keepsScopes_drawMoment (app : Application) (thread agent : Nat) :
    KeepsScopes app (app.drawMoment thread agent).1 :=
  .of_threads threads_drawMoment (stack_drawId.trans stack_drawId)

theorem KeepsScopes.report (keeps : KeepsScopes app later) (agent : Nat)
    (segment : Option Segment) : KeepsScopes app (later.report agent segment) := by
  refine keeps.trans ?_
  unfold Application.report collect
  split
  · exact keepsScopes_refl later
  · split <;> exact .of_threads rfl rfl

theorem keepsScopes_commit (app : Application) (thread agent id : Nat)
    (before after : Native.Context) :
    KeepsScopes app (app.commit thread agent id before after) := by
  have drawn := keepsScopes_drawMoment app thread agent
  unfold commit
  dsimp only
  split
  · exact drawn.trans (.of_threads rfl rfl)
  · exact .of_threads rfl rfl

variable (app)

theorem keepsScopes_createContext (thread agent : Nat) (scope : String) :
    KeepsScopes app (app.createContext thread agent scope) := by
  have drawn := keepsScopes_drawMoment app thread agent
  unfold createContext
  split
  · exact keepsScopes_refl app
  · exact drawn.trans (.of_threads rfl rfl)
  · exact .of_threads rfl rfl

theorem keepsScopes_createSpan (thread id : Nat) (role : Role) (name peer : String) :
    KeepsScopes app (app.createSpan thread id role name peer).1 := by
  unfold createSpan
  split
  · exact keepsScopes_refl app
  · exact keepsScopes_commit app thread _ id _ _
  next context _ =>
    refine @KeepsScopes.of_commit _ _ _ context _ fun nested => ?_
    cases role with
    | entry => exact Zipkin.State.nested_startSpan nested _ _ _ _
    | inner => exact Zipkin.State.nested_startSpan nested _ _ _ _
    | exit => exact Zipkin.State.nested_startExit nested _ _ _

theorem keepsScopes_stopSpan (thread id : Nat) (span : SpanRef) :
    KeepsScopes app (app.stopSpan thread id span).1 := by
  unfold stopSpan
  split
  · exact keepsScopes_refl app
  · unfold stopNative
    split
    · exact keepsScopes_refl app
    · refine KeepsScopes.report ?_ _ _
      exact .of_threads rfl rfl
  next context _ =>
    split
    · exact keepsScopes_refl app
    · exact @KeepsScopes.of_commit _ _ _ context _ fun nested =>
        Zipkin.State.nested_stopSpan nested _ _

theorem keepsScopes_asyncStop (thread id : Nat) (span : SpanRef) :
    KeepsScopes app (app.asyncStop thread id span).1 := by
  unfold asyncStop
  split
  · exact keepsScopes_refl app
  · split
    · exact keepsScopes_refl app
    · refine KeepsScopes.report ?_ _ _
      exact .of_threads rfl rfl
  next context _ =>
    split
    · exact keepsScopes_refl app
    · refine @KeepsScopes.of_commit _ _ _ context _ fun nested => ?_
      rw [Zipkin.State.scopes_finishSpan]
      exact nested

theorem keepsScopes_extract (thread id : Nat) (carrier : Carrier) :
    KeepsScopes app (app.extract thread id carrier).1 := by
  unfold extract
  split
  · exact keepsScopes_refl app
  · exact (keepsScopes_commit app thread _ id _ _).trans (.of_threads rfl rfl)
  next context _ =>
    have committed : KeepsScopes app (app.commitZipkin thread id
        ((app.zipkinState thread context).extract carrier).1) :=
      .of_commit fun nested => Zipkin.State.nested_extract nested carrier
    exact committed.trans (.of_threads rfl rfl)

theorem keepsScopes_resume (thread id : Nat) (snapshot : Snapshot) :
    KeepsScopes app (app.resume thread id snapshot) := by
  unfold resume
  split
  · exact keepsScopes_refl app
  · exact (keepsScopes_commit app thread _ id _ _).trans (.of_threads rfl rfl)
  next context _ =>
    have committed : KeepsScopes app (app.commitZipkin thread id
        ((app.zipkinState thread context).resume snapshot)) :=
      .of_commit fun nested => Zipkin.State.nested_resume nested snapshot
    exact committed.trans (.of_threads rfl rfl)

theorem keepsScopes_links (thread : Nat) : LinksSteps thread KeepsScopes where
  refl := keepsScopes_refl
  trans := .trans
  note _ _ := .of_threads rfl rfl
  bind app := keepsScopes_bind app thread
  createContext app := keepsScopes_createContext app thread
  createSpan app := keepsScopes_createSpan app thread
  stopSpan app := keepsScopes_stopSpan app thread
  extract app := keepsScopes_extract app thread
  resume app := keepsScopes_resume app thread

theorem keepsScopes_endThread (thread : Nat) : KeepsScopes app (app.endThread thread) := by
  refine ⟨rfl, fun shows nested other => ?_⟩
  unfold Application.thread endThread
  dsimp only
  by_cases same : other = thread
  · -- Whoever takes the number starts with the stack of the process.
    rw [same, lookup_filter_self]
    exact ⟨[], Zipkin.Scopes.of_nil shows⟩
  · rw [lookup_filter_ne _ same]
    exact nested other

theorem keepsScopes_changeZipkin (index : Nat) (change : Telemetry.Change) :
    KeepsScopes app (app.changeZipkin index change) := by
  unfold changeZipkin
  split <;> exact .of_threads rfl rfl

theorem keepsScopes_editNative (id : Nat) (key : Native.SpanKey)
    (edit : Native.Span → Native.Span) : KeepsScopes app (app.editNative id key edit) := by
  unfold editNative
  split <;> exact .of_threads rfl rfl

theorem keepsScopes_after (event : Event) : KeepsScopes app (app.after event) := by
  cases event with
  | createContext thread agent scope => exact keepsScopes_createContext app thread agent scope
  | perform thread target command => exact (keepsScopes_links thread).perform app target command
  | annotate span remark =>
    cases span with
    | native id key => exact keepsScopes_editNative app id key _
    | zipkin index =>
      change KeepsScopes app (app.annotate (.zipkin index) remark).1
      unfold annotate
      dsimp only
      split
      · exact keepsScopes_refl app
      · exact (related_changes keepsScopes_refl .trans
          (fun app => keepsScopes_changeZipkin app index) _ _).trans (.of_threads rfl rfl)
  | applyFlags span extension =>
    cases span with
    | native id key => exact keepsScopes_editNative app id key _
    | zipkin index =>
      change KeepsScopes app (app.applyFlags (.zipkin index) extension)
      unfold applyFlags
      dsimp only
      split
      · exact keepsScopes_changeZipkin app index _
      · exact keepsScopes_refl app
  | prepareAsync span =>
    change KeepsScopes app (app.prepareAsync span).1
    unfold prepareAsync
    split
    · split
      · exact keepsScopes_refl app
      · split
        · split <;> exact .of_threads rfl rfl
        all_goals exact keepsScopes_refl app
    · exact .of_threads rfl rfl
  | finishAsync span =>
    change KeepsScopes app (app.finishAsync span).1
    unfold finishAsync finishZipkin
    split
    · split
      · split
        · exact keepsScopes_refl app
        · refine KeepsScopes.report ?_ _ _
          exact .of_threads rfl rfl
      all_goals exact keepsScopes_refl app
    · dsimp only
      split <;> exact .of_threads rfl rfl
  | asyncStop thread id span => exact keepsScopes_asyncStop app thread id span
  | awaitCompletion id =>
    change KeepsScopes app (app.awaitCompletion id)
    unfold awaitCompletion
    split <;> exact .of_threads rfl rfl
  | adopt thread id started =>
    change KeepsScopes app (((app.adopt thread id started).map (·.1)).getD app)
    unfold adopt
    split
    next context found =>
      cases adopted : (app.zipkinState thread context).adopt started with
      | error => exact keepsScopes_refl app
      | ok registered =>
        obtain ⟨_, _, grown, _⟩ := Zipkin.State.register_eq_ok.mp adopted
        exact @KeepsScopes.of_commit _ _ _ context _ fun nested => grown ▸ nested.openFor _
    all_goals exact keepsScopes_refl app
  | startDetached agent scope name parent =>
    change KeepsScopes app (((app.startDetached agent scope name parent).map (·.1)).getD app)
    unfold startDetached
    cases app.provider? agent <;> exact .of_threads rfl rfl
  | shutDown agent =>
    change KeepsScopes app (((app.shutDown agent).map (·.1)).getD app)
    unfold shutDown
    cases app.provider? agent <;> exact .of_threads rfl rfl
  | addSelected config propagator provider =>
    change KeepsScopes app (app.addSelected config propagator provider)
    unfold addSelected
    dsimp only
    split <;> exact .of_threads rfl rfl
  | clearReports agent =>
    change KeepsScopes app (app.clearReports agent)
    unfold clearReports
    split <;> exact .of_threads rfl rfl
  | endThread thread => exact keepsScopes_endThread app thread
  | _ => exact .of_threads rfl rfl

theorem keepsScopes_foldl (events : List Event) : KeepsScopes app (events.foldl after app) := by
  induction events generalizing app with
  | nil => exact keepsScopes_refl app
  | cons event rest ih => exact (keepsScopes_after app event).trans (ih _)

variable {app}

/-- The scopes of every thread are nested. -/
theorem Reachable.nested (reachable : app.Reachable) (shows : app.stack.ShowsLatest)
    (thread : Nat) : (app.thread thread).scopes.Nested := by
  obtain ⟨clock, seed, stack, events, rfl⟩ := reachable
  have kept := keepsScopes_foldl (.begin clock seed stack) events
  rw [kept.stack] at shows
  exact kept.nested shows (fun _ => ⟨[], Zipkin.Scopes.of_nil shows⟩) thread

end Application

end TraceAgent
