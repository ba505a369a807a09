import TraceAgent.Proofs.Application.Binding

/-! How the threads of a process stay apart.

Besides the calls of threads nothing is bound anew, and the spans of contexts
that threads are bound to are edited at most. So whatever an application does,
every thread has a context of its own that is still in its first segment.
-/

set_option autoImplicit false

namespace TraceAgent

open Propagation
open Segment (Remark)

namespace TracingContext

/-- How a context that a thread is bound to may change from elsewhere: it stays in its first
segment, and without an active span it does not change at all. -/
structure Edited (before after : TracingContext) : Prop where
  fresh : before.IsFresh → after.IsFresh
  idle : ∀ owner context, before = .native owner context → context.IsFresh →
    context.active = [] → after = before

theorem Edited.refl (context : TracingContext) : context.Edited context :=
  ⟨id, fun _ _ _ _ _ => rfl⟩

theorem Edited.native (owner : Nat) {before after : Native.Context}
    (fresh : before.IsFresh → after.IsFresh)
    (idle : before.IsFresh → before.active = [] → after = before) :
    Edited (.native owner before) (.native owner after) where
  fresh := fresh
  idle := by
    rintro _ _ ⟨⟩ started inactive
    rw [idle started inactive]

end TracingContext

def Event.actor? : Event → Option Nat
  | .perform thread (.thread _) _ | .endThread thread => some thread
  | _ => none

namespace Application

variable {app later : Application} {thread id owner : Nat}

/-- What happens besides the calls of threads: nobody is bound anew, and the spans of contexts
that threads are bound to are edited at most. -/
structure Aside (app later : Application) : Prop where
  bound : later.bound = app.bound
  edits : ∀ thread id context, app.bound thread = some id → app.contexts[id]? = some context →
    ∃ changed, later.contexts[id]? = some changed ∧ context.Edited changed

namespace Aside

theorem append {more : List TracingContext} (bound : later.bound = app.bound)
    (contexts : later.contexts = app.contexts ++ more) : Aside app later where
  bound := bound
  edits := by
    intro thread id context _ found
    obtain ⟨within, _⟩ := List.getElem?_eq_some_iff.mp found
    exact ⟨context, by rw [contexts, List.getElem?_append_left within, found], .refl context⟩

theorem same (bound : later.bound = app.bound) (contexts : later.contexts = app.contexts) :
    Aside app later := append bound (contexts.trans (List.append_nil _).symm)

theorem refl (app : Application) : Aside app app := same rfl rfl

theorem of_spares (spares : Spares app later id) (free : ∀ thread, app.bound thread ≠ some id) :
    Aside app later where
  bound := spares.bound
  edits := by
    intro thread other context bound found
    have apart : other ≠ id := fun same => free thread (same ▸ bound)
    exact ⟨context, (spares.others other apart).trans found, .refl context⟩

theorem edit {before after : Native.Context}
    (found : app.contexts[id]? = some (.native owner before)) (bound : later.bound = app.bound)
    (contexts : later.contexts = app.contexts.set id (.native owner after))
    (fresh : before.IsFresh → after.IsFresh)
    (idle : before.IsFresh → before.active = [] → after = before) : Aside app later where
  bound := bound
  edits := by
    intro thread other context _ here
    rw [contexts, List.getElem?_set]
    split
    next same =>
      rw [← same, found] at here
      cases here
      obtain ⟨within, _⟩ := List.getElem?_eq_some_iff.mp found
      exact ⟨_, if_pos within, .native owner fresh idle⟩
    next => exact ⟨context, here, .refl context⟩

end Aside

section Spans

variable (app)

theorem aside_editNative (id : Nat) (key : Native.SpanKey) (edit : Native.Span → Native.Span) :
    Aside app (app.editNative id key edit) := by
  unfold editNative
  split
  next agent context found =>
    exact .edit found rfl rfl (fun fresh => fresh.modifySpan key edit)
      fun fresh idle => fresh.modifySpan_eq idle key edit
  all_goals exact .refl app

theorem same_changeZipkin (index : Nat) (change : Telemetry.Change) :
    (app.changeZipkin index change).bound = app.bound ∧
      (app.changeZipkin index change).contexts = app.contexts := by
  unfold changeZipkin
  split <;> exact ⟨rfl, rfl⟩

theorem aside_annotate (span : SpanRef) (remark : Remark) :
    Aside app (app.annotate span remark).1 := by
  cases span with
  | native id key => exact aside_editNative app id key _
  | zipkin index =>
    unfold annotate
    dsimp only
    split
    · exact .refl app
    · have changed := @related_changes
        (fun app later => later.bound = app.bound ∧ later.contexts = app.contexts) index
        (fun _ => ⟨rfl, rfl⟩) (fun first second => ⟨second.1.trans first.1, second.2.trans first.2⟩)
        (same_changeZipkin · index) (Zipkin.changes app.clock remark) app
      exact .same changed.1 changed.2

theorem aside_applyFlags (span : SpanRef) (extension : Extension) :
    Aside app (app.applyFlags span extension) := by
  cases span with
  | native id key => exact aside_editNative app id key _
  | zipkin index =>
    unfold applyFlags
    dsimp only
    split
    · exact .same (same_changeZipkin app index _).1 (same_changeZipkin app index _).2
    · exact .refl app

theorem aside_prepareAsync (span : SpanRef) : Aside app (app.prepareAsync span).1 := by
  cases span with
  | zipkin index => exact .same rfl rfl
  | native id key =>
    unfold prepareAsync
    dsimp only
    split
    · exact .refl app
    · split
      next agent context found =>
        cases prepared : context.prepareAsync key with
        | error => exact .refl app
        | ok after =>
          obtain ⟨ready, rfl⟩ := Native.Context.prepareAsync_eq_ok.mp prepared
          refine .edit found rfl rfl (fun fresh => (fresh.modifySpan key _).awaitCompletion) ?_
          -- Without spans there is none to prepare.
          intro fresh idle
          rw [Native.Context.completion?, fresh.span?_eq_none idle] at ready
          cases ready
      all_goals exact .refl app

theorem aside_finishAsync (span : SpanRef) : Aside app (app.finishAsync span).1 := by
  cases span with
  | zipkin index =>
    unfold finishAsync finishZipkin
    dsimp only
    split <;> exact .same rfl rfl
  | native id key =>
    unfold finishAsync
    dsimp only
    split
    next agent context found =>
      cases finished : context.finishAsync app.now key with
      | error => exact .refl app
      | ok after =>
        obtain ⟨awaited, _⟩ := Native.Context.finishAsync_eq_ok.mp finished
        refine .edit found (bound_report _) (contexts_report _)
          (fun fresh => fresh.finishAsync finished) ?_
        intro fresh idle
        rw [Native.Context.completion?, fresh.span?_eq_none idle] at awaited
        cases awaited
    all_goals exact .refl app

theorem aside_createContext (thread agent : Nat) (scope : String) :
    Aside app (app.createContext thread agent scope) := by
  have bound := bound_createContext app thread agent scope
  by_cases known : agent < app.agents.length
  · obtain ⟨context, _, contexts⟩ := contexts_createContext thread scope known
    exact .append bound contexts
  · unfold createContext
    rw [List.getElem?_eq_none (Nat.le_of_not_lt known)]
    exact .refl app

end Spans

/-- What an application can bring about: the agents that it calls are there, and a context that a
thread is bound to is reached through the calls of the thread. -/
def Allows (app : Application) : Event → Prop
  | .perform _ (.thread agent) _ => agent < app.agents.length
  | .perform _ (.context id) _ | .asyncStop _ id _ | .awaitCompletion id | .adopt _ id _ =>
      ∀ thread, app.bound thread ≠ some id
  | _ => True

theorem moves_after {event : Event} (allowed : app.Allows event)
    (acts : event.actor? = some thread) : Moves thread app (app.after event) := by
  cases event with
  | perform other target command =>
    cases target with
    | context id => cases acts
    | thread agent =>
      cases acts
      exact moves_performBound app thread (fun _ => allowed) command
  | endThread other =>
    cases acts
    exact moves_endThread app thread
  | _ => cases acts

theorem aside_after {event : Event} (allowed : app.Allows event) (silent : event.actor? = none) :
    Aside app (app.after event) := by
  cases event with
  | perform other target command =>
    cases target with
    | context id => exact .of_spares (spares_performIn app other id command) allowed
    | thread agent => cases silent
  | endThread other => cases silent
  | createContext other agent scope => exact aside_createContext app other agent scope
  | annotate span remark => exact aside_annotate app span remark
  | applyFlags span extension => exact aside_applyFlags app span extension
  | prepareAsync span => exact aside_prepareAsync app span
  | finishAsync span => exact aside_finishAsync app span
  | asyncStop other id span => exact .of_spares (spares_asyncStop app other id span) allowed
  | awaitCompletion id => exact .of_spares (spares_awaitCompletion app id) allowed
  | adopt other id started =>
    change Aside app (((app.adopt other id started).map (·.1)).getD app)
    cases adopted : app.adopt other id started with
    | none => exact .refl app
    | some outcome => exact .of_spares (spares_adopt app adopted) allowed
  | addSelected config propagator provider =>
    change Aside app (app.addSelected config propagator provider)
    unfold addSelected
    dsimp only
    split <;> exact .same rfl rfl
  | clearReports agent =>
    change Aside app (app.clearReports agent)
    unfold clearReports
    split <;> exact .same rfl rfl
  | startDetached agent scope name parent =>
    change Aside app (((app.startDetached agent scope name parent).map (·.1)).getD app)
    unfold startDetached
    cases app.provider? agent <;> exact .same rfl rfl
  | shutDown agent =>
    change Aside app (((app.shutDown agent).map (·.1)).getD app)
    unfold shutDown
    cases app.provider? agent <;> exact .same rfl rfl
  | _ => exact .same rfl rfl

/-- Every thread has a context of its own, which is still in its first segment. -/
structure Settled (app : Application) : Prop where
  stands : ∀ thread, app.Stands thread
  apart : ∀ {first second id : Nat}, app.bound first = some id → app.bound second = some id →
    first = second

namespace Settled

theorem begin (clock : Int) (seed : BitVec 128) (stack : Telemetry.ContextStack) :
    (Application.begin clock seed stack).Settled where
  stands := fun _ _ bound => nomatch bound
  apart := fun bound _ => nomatch bound

/-- The context of another thread is none of those that a thread works in. -/
theorem away (settled : app.Settled) {other : Nat} (apart : other ≠ thread)
    (bound : app.bound other = some id) : app.bound thread ≠ some id :=
  fun same => apart (settled.apart bound same)

theorem length (settled : app.Settled) (bound : app.bound thread = some id) :
    id < app.contexts.length := by
  obtain ⟨context, found, _⟩ := settled.stands thread id bound
  exact (List.getElem?_eq_some_iff.mp found).1

theorem moves (settled : app.Settled) (moves : Moves thread app later) : later.Settled where
  stands := by
    intro other
    by_cases same : other = thread
    · rw [same]
      exact moves.stands (settled.stands thread)
    · intro id bound
      rw [moves.others other same] at bound
      obtain ⟨context, found, fresh⟩ := settled.stands other id bound
      exact ⟨context, (moves.kept id (settled.length bound) (settled.away same bound)).trans found,
        fresh⟩
  apart := by
    -- A thread that is bound anew has a context that was not there before.
    have alone : ∀ {other id : Nat}, later.bound thread = some id → later.bound other = some id →
        other = thread := by
      intro other id here there
      by_cases same : other = thread
      · exact same
      · rw [moves.others other same] at there
        rcases moves.home id here with before | new
        · exact settled.apart there before
        · exact absurd (settled.length there) (Nat.not_lt_of_le new)
    intro first second id here there
    by_cases same : first = thread
    · rw [same] at here ⊢
      exact (alone here there).symm
    · by_cases equal : second = thread
      · rw [equal] at there ⊢
        exact alone there here
      · rw [moves.others first same] at here
        rw [moves.others second equal] at there
        exact settled.apart here there

theorem aside (settled : app.Settled) (aside : Aside app later) : later.Settled where
  stands := by
    intro thread id bound
    rw [aside.bound] at bound
    obtain ⟨context, found, fresh⟩ := settled.stands thread id bound
    obtain ⟨changed, here, edited⟩ := aside.edits thread id context bound found
    exact ⟨changed, here, edited.fresh fresh⟩
  apart := by
    intro first second id here there
    rw [aside.bound] at here there
    exact settled.apart here there

theorem after {event : Event} (settled : app.Settled) (allowed : app.Allows event) :
    (app.after event).Settled := by
  cases acts : event.actor? with
  | some thread => exact settled.moves (moves_after allowed acts)
  | none => exact settled.aside (aside_after allowed acts)

end Settled

def Admits (app : Application) : List Event → Prop
  | [] => True
  | event :: rest => app.Allows event ∧ (app.after event).Admits rest

theorem Settled.foldl {events : List Event} (settled : app.Settled) (admitted : app.Admits events) :
    (events.foldl Application.after app).Settled := by
  induction events generalizing app with
  | nil => exact settled
  | cons event rest ih => exact ih (settled.after admitted.1) admitted.2

/-- A process that events lead to which an application can bring about. -/
def Proper (app : Application) : Prop :=
  ∃ clock seed stack events, (Application.begin clock seed stack).Admits events ∧
    app = List.foldl Application.after (.begin clock seed stack) events

theorem Proper.reachable (proper : app.Proper) : app.Reachable := by
  obtain ⟨clock, seed, stack, events, _, same⟩ := proper
  exact ⟨clock, seed, stack, events, same⟩

/-- Whatever an application does, its threads work apart from each other. -/
theorem Proper.settled (proper : app.Proper) : app.Settled := by
  obtain ⟨clock, seed, stack, events, admitted, rfl⟩ := proper
  exact (Settled.begin clock seed stack).foldl admitted

end Application

end TraceAgent
