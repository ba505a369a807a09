import TraceAgent.Proofs.Application.CrossProcess
import TraceAgent.Proofs.Native.Fresh

/-! What the calls of a thread do to the contexts of a process.

A thread works in the context that it is bound to, is bound to a new one, or
leaves the one that it has with its last span. So the context that a thread is
bound to has not ended its first segment, and the contexts of other threads stay
as they are.
-/

set_option autoImplicit false

namespace TraceAgent

open Propagation
open Segment (Role)

namespace TracingContext

def IsFresh : TracingContext → Prop
  | .native _ context => context.IsFresh
  | .zipkin _ => True

end TracingContext

namespace Application

variable {app later last : Application} {thread agent id owner : Nat}

theorem bound_bind_of_ne {other : Nat} (target : Option Nat) (apart : other ≠ thread) :
    (app.bind thread target).bound other = app.bound other :=
  congrArg Thread.bound (thread_setThread_of_ne _ apart)

structure Spares (app later : Application) (id : Nat) : Prop where
  bound : later.bound = app.bound
  length : later.contexts.length = app.contexts.length
  others : ∀ other, other ≠ id → later.contexts[other]? = app.contexts[other]?

structure Tends (app later : Application) (id : Nat) : Prop extends Spares app later id where
  fresh : ∀ context, app.contexts[id]? = some context → context.IsFresh →
    ∃ changed, later.contexts[id]? = some changed ∧ changed.IsFresh

theorem Spares.set {context : TracingContext} (bound : later.bound = app.bound)
    (contexts : later.contexts = app.contexts.set id context) : Spares app later id where
  bound := bound
  length := by rw [contexts, List.length_set]
  others := fun other apart => by rw [contexts, List.getElem?_set_ne (Ne.symm apart)]

namespace Tends

theorem same (bound : later.bound = app.bound) (contexts : later.contexts = app.contexts) :
    Tends app later id where
  bound := bound
  length := by rw [contexts]
  others := fun other _ => by rw [contexts]
  fresh := fun context found fresh => ⟨context, contexts ▸ found, fresh⟩

theorem set {before context : TracingContext} (found : app.contexts[id]? = some before)
    (bound : later.bound = app.bound) (contexts : later.contexts = app.contexts.set id context)
    (fresh : before.IsFresh → context.IsFresh) : Tends app later id where
  toSpares := .set bound contexts
  fresh := by
    intro other here started
    cases found.symm.trans here
    obtain ⟨within, _⟩ := List.getElem?_eq_some_iff.mp found
    exact ⟨context, by rw [contexts, List.getElem?_set_self within], fresh started⟩

end Tends

section Operations

variable (app)

theorem tends_createSpan (thread id : Nat) (role : Role) (name peer : String) :
    Tends app (app.createSpan thread id role name peer).1 id := by
  unfold createSpan
  split
  · exact .same rfl rfl
  next agent context found =>
    exact .set found (bound_commit _ _) (contexts_commit _ _)
      fun fresh => Native.Context.IsFresh.createSpan fresh _ role name peer
  next context found =>
    exact .set found (bound_commitZipkin _) (contexts_commitZipkin _) fun _ => trivial

theorem tends_extract (thread id : Nat) (carrier : Carrier) :
    Tends app (app.extract thread id carrier).1 id := by
  unfold extract
  split
  · exact .same rfl rfl
  next agent context found =>
    refine .set found ?_ (contexts_commit _ _)
      fun fresh => Native.Context.IsFresh.extract fresh _ carrier
    rw [bound_note, bound_commit]
  next context found =>
    exact .set found (bound_commitZipkin _) (contexts_commitZipkin _) fun _ => trivial

theorem tends_resume (thread id : Nat) (snapshot : Snapshot) :
    Tends app (app.resume thread id snapshot) id := by
  unfold resume
  split
  · exact .same rfl rfl
  next agent context found =>
    refine .set found ?_ (contexts_commit _ _)
      fun fresh => Native.Context.IsFresh.resume fresh _ snapshot
    rw [bound_note, bound_commit]
  next context found =>
    exact .set found (bound_commitZipkin _) (contexts_commitZipkin _) fun _ => trivial

theorem spares_stopSpan (thread id : Nat) (span : SpanRef) :
    Spares app (app.stopSpan thread id span).1 id := by
  unfold stopSpan
  split
  · exact (Tends.same rfl rfl).toSpares
  next agent context found =>
    unfold stopNative
    split
    · exact (Tends.same rfl rfl).toSpares
    · exact .set (bound_report _) (contexts_report _)
  next context found =>
    split
    · exact (Tends.same rfl rfl).toSpares
    · exact .set (bound_commitZipkin _) (contexts_commitZipkin _)

/-- While spans run in a context it stays in its first segment. -/
theorem tends_stopSpan {span : SpanRef} {busy : Application} {outcome : Except TraceError Bool}
    (stops : app.stopSpan thread id span = (busy, outcome)) (runs : outcome ≠ .ok true) :
    Tends app busy id := by
  unfold stopSpan at stops
  split at stops
  · cases stops
    exact .same rfl rfl
  next agent context found =>
    unfold stopNative at stops
    cases stopped : context.stopSpan app.now (argument id span) with
    | error =>
      rw [stopped] at stops
      cases stops
      exact .same rfl rfl
    | ok after =>
      rw [stopped] at stops
      cases stops
      refine .set found (bound_report _) (contexts_report _) fun fresh => ?_
      obtain ⟨opened, index, rest, current, active, _, rfl⟩ :=
        Native.Context.stopSpan_eq_ok.mp stopped
      refine Native.Context.IsFresh.leaveTop fresh ?_
      cases idle : (context.leaveTop app.now opened index).idle with
      | false => rfl
      | true => exact absurd (congrArg Except.ok idle) runs
  next context found =>
    split at stops
    · cases stops
      exact .same rfl rfl
    · cases stops
      exact .set found (bound_commitZipkin _) (contexts_commitZipkin _) fun _ => trivial

theorem spares_asyncStop (thread id : Nat) (span : SpanRef) :
    Spares app (app.asyncStop thread id span).1 id := by
  unfold asyncStop
  split
  · exact (Tends.same rfl rfl).toSpares
  next agent context found =>
    cases context.asyncStop (argument id span) with
    | error => exact (Tends.same rfl rfl).toSpares
    | ok => exact .set (bound_report _) (contexts_report _)
  next context found =>
    split
    · exact (Tends.same rfl rfl).toSpares
    · exact .set (bound_commitZipkin _) (contexts_commitZipkin _)

theorem spares_awaitCompletion (id : Nat) : Spares app (app.awaitCompletion id) id := by
  unfold awaitCompletion
  split
  · exact .set rfl rfl
  all_goals exact (Tends.same rfl rfl).toSpares

theorem spares_adopt {thread id : Nat} {started : Telemetry.Context}
    {adopted : Application × Except TraceError SpanRef}
    (found : app.adopt thread id started = some adopted) : Spares app adopted.1 id := by
  unfold adopt at found
  split at found
  · cases found
    split
    · exact (Tends.same rfl rfl).toSpares
    · exact .set (bound_commitZipkin _) (contexts_commitZipkin _)
  all_goals cases found

theorem spares_stopIn (thread id : Nat) (span : Option SpanRef) :
    Spares app (app.stopIn thread id span).1 id := by
  unfold stopIn
  split
  · exact spares_stopSpan app thread id _
  · split
    · exact spares_stopSpan app thread id _
    · exact (Tends.same rfl rfl).toSpares

theorem spares_performIn (thread id : Nat) (command : Command) :
    Spares app (app.performIn thread id command).app id := by
  cases command with
  | create role name peer carrier => exact (tends_createSpan app thread id role name peer).toSpares
  | stop span => exact spares_stopIn app thread id span
  | inject carrier =>
    unfold performIn
    dsimp only
    split <;> exact (Tends.same rfl rfl).toSpares
  | extract carrier => exact (tends_extract app thread id carrier).toSpares
  | resume snapshot => exact (tends_resume app thread id snapshot).toSpares
  | _ => exact (Tends.same rfl rfl).toSpares

end Operations

/-- The context that a thread is bound to is there, still in its first segment. -/
def Stands (app : Application) (thread : Nat) : Prop :=
  ∀ id, app.bound thread = some id →
    ∃ context, app.contexts[id]? = some context ∧ context.IsFresh

/-- What a thread does to the contexts of a process and to who is bound to them: it works in its
own context, leaves it, or is bound to a new one. -/
structure Moves (thread : Nat) (app later : Application) : Prop where
  grows : app.contexts.length ≤ later.contexts.length
  kept : ∀ id < app.contexts.length, app.bound thread ≠ some id →
    later.contexts[id]? = app.contexts[id]?
  others : ∀ other, other ≠ thread → later.bound other = app.bound other
  home : ∀ id, later.bound thread = some id →
    app.bound thread = some id ∨ app.contexts.length ≤ id
  stands : app.Stands thread → later.Stands thread

namespace Moves

theorem same (bound : later.bound = app.bound) (contexts : later.contexts = app.contexts) :
    Moves thread app later where
  grows := Nat.le_of_eq (by rw [contexts])
  kept := fun _ _ _ => by rw [contexts]
  others := fun _ _ => by rw [bound]
  home := fun _ here => .inl (by rwa [← bound])
  stands := fun stands id here => by
    rw [contexts]
    exact stands id (by rwa [← bound])

theorem refl (app : Application) : Moves thread app app := same rfl rfl

theorem trans (first : Moves thread app later) (second : Moves thread later last) :
    Moves thread app last where
  grows := Nat.le_trans first.grows second.grows
  kept := by
    intro id old apart
    have away : later.bound thread ≠ some id := fun here =>
      (first.home id here).elim apart (Nat.not_le_of_lt old)
    exact (second.kept id (Nat.lt_of_lt_of_le old first.grows) away).trans
      (first.kept id old apart)
  others := fun other apart => (second.others other apart).trans (first.others other apart)
  home := by
    intro id here
    rcases second.home id here with before | new
    · exact first.home id before
    · exact .inr (Nat.le_trans first.grows new)
  stands := fun stands => second.stands (first.stands stands)

theorem work (bound : app.bound thread = some id) (tends : Tends app later id) :
    Moves thread app later where
  grows := Nat.le_of_eq tends.length.symm
  kept := fun other _ apart => tends.others other fun same => apart (same ▸ bound)
  others := fun other _ => congrFun tends.bound other
  home := fun _ here => .inl (by rwa [← tends.bound])
  stands := by
    intro stands other here
    rw [tends.bound, bound] at here
    cases here
    obtain ⟨context, found, fresh⟩ := stands id bound
    exact tends.fresh context found fresh

theorem leave (bound : app.bound thread = some id) (spares : Spares app later id) :
    Moves thread app (later.bind thread none) where
  grows := Nat.le_of_eq spares.length.symm
  kept := fun other _ apart => spares.others other fun same => apart (same ▸ bound)
  others := fun other apart =>
    (bound_bind_of_ne none apart).trans (congrFun spares.bound other)
  home := fun other here => by
    rw [bound_bind] at here
    cases here
  stands := fun _ other here => by
    rw [bound_bind] at here
    cases here

end Moves

theorem bound_createContext (app : Application) (thread agent : Nat) (scope : String) :
    (app.createContext thread agent scope).bound = app.bound :=
  bound_of_threads (threads_createContext app thread agent scope)

theorem contexts_createContext (thread : Nat) (scope : String) (known : agent < app.agents.length) :
    ∃ context : TracingContext, context.IsFresh ∧
      (app.createContext thread agent scope).contexts = app.contexts ++ [context] := by
  obtain ⟨⟨config, tracer⟩, here⟩ : ∃ settings, app.agents[agent]? = some settings :=
    ⟨_, List.getElem?_eq_getElem known⟩
  unfold createContext
  rw [here]
  cases tracer with
  | native ids reporter =>
    exact ⟨.native agent (.begin config (app.drawMoment thread agent).2),
      Native.Context.IsFresh.begin config _, congrArg (· ++ _) contexts_drawMoment⟩
  | zipkin provider propagator =>
    exact ⟨.zipkin { provider, scope, propagator, correlation := { limits := config.limits } },
      trivial, rfl⟩

theorem moves_obtain (app : Application) (thread : Nat)
    (known : app.bound thread = none → agent < app.agents.length) :
    Moves thread app (app.obtain thread agent).app := by
  unfold obtain
  cases bound : app.bound thread with
  | some id => exact .refl app
  | none =>
    obtain ⟨context, fresh, contexts⟩ :=
      contexts_createContext thread Zipkin.scopeName (known bound)
    have more : ((app.createContext thread agent Zipkin.scopeName).bind thread
        (some app.contexts.length)).contexts = app.contexts ++ [context] := contexts
    refine ⟨?_, ?_, ?_, ?_, ?_⟩
    · rw [more, List.length_append]
      exact Nat.le_add_right _ _
    · intro id old _
      rw [more, List.getElem?_append_left old]
    · intro other apart
      rw [bound_bind_of_ne _ apart, bound_createContext]
    · intro id here
      rw [bound_bind] at here
      exact .inr (Nat.le_of_eq (Option.some.inj here))
    · intro _ id here
      rw [bound_bind] at here
      cases here
      exact ⟨context, by rw [more, List.getElem?_concat_length], fresh⟩

theorem moves_finishSpan (bound : app.bound thread = some id) (span : SpanRef) :
    Moves thread app (app.finishSpan thread id span).1 := by
  have spares := spares_stopSpan app thread id span
  unfold finishSpan
  cases stops : app.stopSpan thread id span with
  | mk stopped outcome =>
    rw [stops] at spares
    match outcome, stops with
    | .ok true, _ => exact .leave bound spares
    | .ok false, stops => exact .work bound (tends_stopSpan app stops (by simp))
    | .error error, stops => exact .work bound (tends_stopSpan app stops (by simp))

theorem moves_releaseUnused (bound : app.bound thread = some id) (created : Bool) :
    Moves thread app (app.releaseUnused thread id created) := by
  unfold releaseUnused
  split
  · split
    · exact .leave bound (Tends.same rfl rfl).toSpares
    · exact .refl app
  · exact .refl app

theorem moves_createOrRelease {obtained : Obtained}
    (bound : obtained.app.bound thread = some obtained.id) (role : Role) (name peer : String) :
    Moves thread obtained.app (createOrRelease obtained thread role name peer).1 := by
  have tends := tends_createSpan obtained.app thread obtained.id role name peer
  unfold createOrRelease
  generalize obtained.app.createSpan thread obtained.id role name peer = result at tends
  have created := Moves.work bound tends
  have stays : result.1.bound thread = some obtained.id := by rw [tends.bound, bound]
  split
  · exact created
  · exact created.trans (moves_releaseUnused stays obtained.created)

theorem bound_createOrRelease {obtained : Obtained} {role : Role} {name peer : String}
    {entered : Application} {span : SpanRef}
    (bound : obtained.app.bound thread = some obtained.id)
    (creates : createOrRelease obtained thread role name peer = (entered, .ok span)) :
    entered.bound thread = some obtained.id := by
  have created := (createOrRelease_eq_ok obtained thread role name peer).mp creates
  have same := (tends_createSpan obtained.app thread obtained.id role name peer).bound
  rw [created] at same
  rw [same, bound]

section Calls

variable (app) (thread) (known : app.bound thread = none → agent < app.agents.length)
include known

theorem moves_enterEntry (name : String) (carrier : Option Carrier) :
    Moves thread app (app.enterEntry thread agent name carrier).1 := by
  have obtained := moves_obtain app thread known
  have bound := bound_obtain app thread agent
  unfold enterEntry
  cases carrier with
  | none => exact obtained.trans (moves_createOrRelease bound _ _ _)
  | some carrier =>
    have tends := tends_extract (app.obtain thread agent).app thread (app.obtain thread agent).id
      carrier
    have stays := (congrFun tends.bound thread).trans bound
    exact (obtained.trans (.work bound tends)).trans
      (@moves_createOrRelease thread { app.obtain thread agent with
        app := ((app.obtain thread agent).app.extract thread (app.obtain thread agent).id
          carrier).1 } stays _ _ _)

theorem moves_enterExit (name peer : String) (carrier : Option Carrier) :
    Moves thread app (app.enterExit thread agent name peer carrier).1 := by
  have bound := bound_obtain app thread agent
  have created := (moves_obtain app thread known).trans
    (moves_createOrRelease bound .exit (cutName name) peer)
  have stays := @bound_createOrRelease thread (app.obtain thread agent) .exit (cutName name) peer
  unfold enterExit
  dsimp only
  generalize createOrRelease (app.obtain thread agent) thread .exit (cutName name) peer = result
    at created stays
  split
  · exact created
  · split
    · exact created
    · split
      · exact created
      · exact created.trans (moves_finishSpan (stays bound rfl) _)

theorem moves_enter (role : Role) (name peer : String) (carrier : Option Carrier) :
    Moves thread app (app.enter thread agent role name peer carrier).1 := by
  cases role with
  | entry => exact moves_enterEntry app thread known name carrier
  | exit => exact moves_enterExit app thread known name peer carrier
  | inner =>
    exact (moves_obtain app thread known).trans
      (moves_createOrRelease (bound_obtain app thread agent) _ _ _)

theorem moves_resumeBound (snapshot : Snapshot) :
    Moves thread app (app.resumeBound thread agent snapshot) := by
  unfold resumeBound
  split
  · exact .same rfl rfl
  · exact (moves_obtain app thread known).trans
      (.work (bound_obtain app thread agent) (tends_resume _ thread _ snapshot))

omit known

theorem moves_stopBound (span : SpanRef) : Moves thread app (app.stopBound thread span).1 := by
  unfold stopBound running
  cases bound : app.bound thread with
  | none => exact .refl app
  | some id => exact moves_finishSpan bound span

theorem moves_stopActive : Moves thread app (app.stopActive thread).1 := by
  unfold stopActive running
  cases bound : app.bound thread with
  | none => exact .refl app
  | some id =>
    dsimp only
    split
    · exact .refl app
    · exact moves_finishSpan bound _

theorem moves_extractBound (carrier : Carrier) :
    Moves thread app (app.extractBound thread carrier).1 := by
  unfold extractBound running
  cases bound : app.bound thread with
  | none => exact .refl app
  | some id => exact .work bound (tends_extract app thread id carrier)

include known

/-- Whatever a thread calls, it works in a context of its own. -/
theorem moves_performBound (command : Command) :
    Moves thread app (app.performBound thread agent command).app := by
  cases command with
  | create role name peer carrier => exact moves_enter app thread known role name peer carrier
  | stop span =>
    cases span with
    | some span => exact moves_stopBound app thread span
    | none => exact moves_stopActive app thread
  | inject carrier =>
    unfold performBound
    dsimp only
    split <;> exact .refl app
  | extract carrier => exact moves_extractBound app thread carrier
  | resume snapshot => exact moves_resumeBound app thread known snapshot
  | _ => exact .refl app

end Calls

theorem moves_endThread (app : Application) (thread : Nat) :
    Moves thread app (app.endThread thread) := by
  have free : (app.endThread thread).bound thread = none :=
    congrArg (fun state : Option Thread => (state.getD _).bound)
      (lookup_filter_self app.threads thread)
  refine ⟨Nat.le_refl _, fun _ _ _ => rfl, fun other apart => ?_, fun id here => ?_,
    fun _ id here => ?_⟩
  · exact congrArg (fun state : Option Thread => (state.getD _).bound)
      (lookup_filter_ne app.threads apart)
  · cases free.symm.trans here
  · cases free.symm.trans here

end Application

end TraceAgent
