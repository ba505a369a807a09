import TraceAgent.Proofs.Application.NativeThread
import TraceAgent.Proofs.Native.Undoing

/-! Exit spans that are given up because their carrier cannot be prepared.

Nobody gets to see such a span, so it is stopped at once. Under an active span,
or on a thread that runs no trace, that leaves everything as it was. But a thread
that continues a trace in which no span is active yet is released with the exit
span, and the trace is lost to it.
-/

set_option autoImplicit false

namespace TraceAgent.Application

open Propagation
open Segment (Role Parent)

variable {app later : Application} {thread agent id owner : Nat} {context : Native.Context}
  {name peer : String} {carrier returned : Option Carrier} {error : TraceError}

def openSegment? (app : Application) (thread : Nat) : Option Segment :=
  (app.bound thread).bind fun id =>
    match app.contexts[id]? with
    | some (.native _ context) => context.current.map (·.segment)
    | some (.zipkin _) | none => none

/-- The parents of the native span that a thread enters next, if it receives no call. -/
def nextParents? (app : Application) (thread agent : Nat) (role : Role) (name peer : String) :
    Option (List Parent) :=
  match app.enter thread agent role name peer none with
  | (entered, _, .ok (.native id key)) => (entered.nativeSpan? id key).map (·.parents)
  | _ => none

/-- What a thread shows of its trace is the same, and so is what the span continues that it enters
next. -/
structure Undisturbed (app later : Application) (thread : Nat) : Prop where
  isActive : later.isActive thread = app.isActive thread
  active : later.activeBound thread = app.activeBound thread
  traceId : later.boundTraceId thread = app.boundTraceId thread
  correlation : later.boundCorrelation? thread = app.boundCorrelation? thread
  segment : later.openSegment? thread = app.openSegment? thread
  next : ∀ agent role name peer, app.IsNative agent →
    later.nextParents? thread agent role name peer = app.nextParents? thread agent role name peer

theorem isActive_of_bound {target : Option Nat} (bound : app.bound thread = target) :
    app.isActive thread = target.isSome := congrArg Option.isSome bound

section Obtained

variable (found : (app.obtain thread agent).app.contexts[(app.obtain thread agent).id]? =
  some (.native owner context))
include found

theorem createOrRelease_native (role : Role) (name peer : String) :
    ∃ moment, createOrRelease (app.obtain thread agent) thread role name peer =
      ((app.obtain thread agent).app.commit thread owner (app.obtain thread agent).id context
          (context.createSpan moment role name peer).1,
        .ok (.native (app.obtain thread agent).id
          (context.createSpan moment role name peer).2)) :=
  ⟨_, (createOrRelease_eq_ok _ _ _ _ _).mpr (createSpan_native thread role name peer found)⟩

theorem enter_native (role : Role) (name peer : String) :
    ∃ moment address, app.enter thread agent role name peer none =
      ((app.obtain thread agent).app.commit thread owner (app.obtain thread agent).id context
          (context.createSpan moment role (cutName name) address).1, none,
        .ok (.native (app.obtain thread agent).id
          (context.createSpan moment role (cutName name) address).2)) := by
  cases role with
  | entry =>
    obtain ⟨moment, created⟩ := createOrRelease_native found .entry (cutName name) ""
    refine ⟨moment, "", ?_⟩
    unfold enter enterEntry
    dsimp only
    rw [created]
  | inner =>
    obtain ⟨moment, created⟩ := createOrRelease_native found .inner (cutName name) ""
    refine ⟨moment, "", ?_⟩
    unfold enter enterInner
    dsimp only
    rw [created]
  | exit =>
    obtain ⟨moment, created⟩ := createOrRelease_native found .exit (cutName name) peer
    refine ⟨moment, peer, ?_⟩
    unfold enter enterExit
    dsimp only
    rw [created]

/-- The next span inherits from the context in which the thread works. -/
theorem nextParents?_eq (role : Role) (name peer : String) :
    app.nextParents? thread agent role name peer = some (context.inherits role) := by
  obtain ⟨moment, address, enters⟩ := enter_native found role name peer
  unfold nextParents?
  rw [enters]
  dsimp only
  unfold nativeSpan?
  rw [getElem?_commit found]
  exact context.parents_created moment role (cutName name) address

theorem enterExit_refused
    (fails : app.enterExit thread agent name peer carrier = (later, returned, .error error)) :
    error = .missingPeer ∧ returned = carrier ∧ ∃ moment,
      later = (((app.obtain thread agent).app.commit thread owner (app.obtain thread agent).id context
        (context.createSpan moment .exit (cutName name) peer).1).finishSpan thread
          (app.obtain thread agent).id (.native (app.obtain thread agent).id
            (context.createSpan moment .exit (cutName name) peer).2)).1 := by
  obtain ⟨moment, created⟩ := createOrRelease_native found .exit (cutName name) peer
  unfold enterExit at fails
  dsimp only at fails
  rw [created] at fails
  dsimp only at fails
  cases carrier with
  | none => cases fails
  | some carrier =>
    dsimp only at fails
    unfold Application.inject at fails
    rw [getElem?_commit found] at fails
    dsimp only at fails
    split at fails
    next => cases fails
    next refused =>
      cases fails
      exact ⟨Native.Context.inject_createSpan_eq_error refused, rfl, moment, rfl⟩

end Obtained

theorem nextParents?_of_bound (bound : app.bound thread = some id)
    (found : app.contexts[id]? = some (.native owner context)) (agent : Nat) (role : Role)
    (name peer : String) :
    app.nextParents? thread agent role name peer = some (context.inherits role) := by
  have here : (app.obtain thread agent).app.contexts[(app.obtain thread agent).id]? =
      some (.native owner context) := by
    rw [obtain_of_bound agent bound]
    exact found
  exact nextParents?_eq here role name peer

theorem nextParents?_of_free (free : app.bound thread = none) (native : app.IsNative agent)
    (role : Role) (name peer : String) :
    app.nextParents? thread agent role name peer = some [] := by
  have runs : app.RunsNative thread agent := by
    unfold RunsNative
    rw [free]
    exact native
  obtain ⟨owner, context, serves, found⟩ := obtain_native runs
  rw [nextParents?_eq found]
  rcases serves with ⟨bound, _⟩ | ⟨_, _, config, moment, rfl⟩
  · rw [free] at bound
    cases bound
  · rw [Native.Context.inherits_begin]

theorem undisturbed_of_retains {after : Native.Context} (sound : context.Sound)
    (retains : context.Retains after) (bound : app.bound thread = some id)
    (found : app.contexts[id]? = some (.native owner context))
    (boundLater : later.bound thread = some id)
    (foundLater : later.contexts[id]? = some (.native owner after)) :
    Undisturbed app later thread where
  isActive := by rw [isActive_of_bound bound, isActive_of_bound boundLater]
  active := by
    unfold activeBound
    rw [bound, boundLater]
    dsimp only
    rw [activeSpan_native found, activeSpan_native foundLater, retains.activeSpan sound]
  traceId := by
    have same : after.traceId? = context.traceId? := by
      have kept := congrArg (Option.map fun segment => segment.traceId.id) retains.segment
      rwa [Option.map_map, Option.map_map] at kept
    unfold boundTraceId
    rw [bound, boundLater]
    unfold traceIdText
    dsimp only
    rw [found, foundLater]
    dsimp only
    rw [same]
  correlation := by
    unfold boundCorrelation?
    rw [bound, boundLater, Option.map_some, Option.map_some]
    unfold correlation
    rw [found, foundLater]
    exact congrArg some retains.correlation
  segment := by
    unfold openSegment?
    rw [bound, boundLater, Option.bind_some, Option.bind_some, found, foundLater]
    exact retains.segment
  next := by
    intro agent role name peer _
    rw [nextParents?_of_bound bound found, nextParents?_of_bound boundLater foundLater,
      retains.inherits sound]

theorem undisturbed_of_free (free : app.bound thread = none) (released : later.bound thread = none)
    (natives : ∀ agent, app.IsNative agent → later.IsNative agent) :
    Undisturbed app later thread where
  isActive := by rw [isActive_of_bound free, isActive_of_bound released]
  active := by
    unfold activeBound
    rw [free, released]
  traceId := by
    unfold boundTraceId
    rw [free, released]
  correlation := by
    unfold boundCorrelation?
    rw [free, released]
    rfl
  segment := by
    unfold openSegment?
    rw [free, released]
    rfl
  next := by
    intro agent role name peer native
    rw [nextParents?_of_free free native, nextParents?_of_free released (natives agent native)]

theorem isNative_obtain {other : Nat} (native : app.IsNative other) :
    (app.obtain thread agent).app.IsNative other := by
  have created : (app.createContext thread agent Zipkin.scopeName).IsNative other := by
    unfold createContext
    split
    · exact native
    · exact isNative_of_agents (isNative_drawMoment native) rfl
    · exact isNative_of_agents native rfl
  unfold obtain
  split
  · exact native
  · exact isNative_of_agents created rfl

theorem finishSpan_native {key : Native.SpanKey} {stopped : Native.Context.Stopped}
    (found : app.contexts[id]? = some (.native owner context))
    (stops : context.stopSpan app.now (.own key) = .ok stopped) :
    app.finishSpan thread id (.native id key) =
      (if stopped.idle then
          ((app.setContext id (.native owner stopped.context)).report owner stopped.report).bind
            thread none
        else (app.setContext id (.native owner stopped.context)).report owner stopped.report,
        .ok ()) := by
  unfold finishSpan
  rw [stopSpan_native found stops]
  cases stopped.idle <;> rfl

/-- Without an active span in its context the thread is released with the exit span. -/
theorem released_of_refused (sound : context.Sound) (idle : context.active = [])
    (found : (app.obtain thread agent).app.contexts[(app.obtain thread agent).id]? =
      some (.native owner context))
    (fails : app.enterExit thread agent name peer carrier = (later, returned, .error error)) :
    later.bound thread = none ∧ ∀ other, app.IsNative other → later.IsNative other := by
  obtain ⟨_, _, moment, rfl⟩ := enterExit_refused found fails
  obtain ⟨stopped, stops, last⟩ := sound.stopSpan_exit_of_idle idle moment (cutName name) peer
    ((app.obtain thread agent).app.commit thread owner (app.obtain thread agent).id context
      (context.createSpan moment .exit (cutName name) peer).1).now
  rw [finishSpan_native (getElem?_commit found) stops, if_pos last]
  refine ⟨bound_bind none, fun other native => ?_⟩
  have committed : ((app.obtain thread agent).app.commit thread owner (app.obtain thread agent).id
      context (context.createSpan moment .exit (cutName name) peer).1).IsNative other :=
    isNative_commit (isNative_obtain native) _ _
  refine isNative_of_agents (isNative_report ?_ stopped.report) rfl
  exact isNative_of_agents committed rfl

/-- Under an active span the exit span leaves the context of the thread as it was. -/
theorem retains_of_refused (sound : context.Sound) (attends : context.Attends)
    (busy : context.active ≠ []) (bound : app.bound thread = some id)
    (found : app.contexts[id]? = some (.native owner context))
    (fails : app.enterExit thread agent name peer carrier = (later, returned, .error error)) :
    ∃ after, context.Retains after ∧ later.bound thread = some id ∧
      later.contexts[id]? = some (.native owner after) := by
  have obtained := obtain_of_bound agent bound
  have here : (app.obtain thread agent).app.contexts[(app.obtain thread agent).id]? =
      some (.native owner context) := by
    rw [obtained]
    exact found
  obtain ⟨_, _, moment, rfl⟩ := enterExit_refused here fails
  rw [obtained]
  dsimp only
  have stored : (app.commit thread owner id context
      (context.createSpan moment .exit (cutName name) peer).1).contexts[id]? = some (.native owner
        (context.createSpan moment .exit (cutName name) peer).1) := getElem?_commit found
  obtain ⟨stopped, stops, others, quiet, retains⟩ := sound.retains_exit attends busy moment
    (cutName name) peer (app.commit thread owner id context
      (context.createSpan moment .exit (cutName name) peer).1).now
  rw [finishSpan_native stored stops, others, quiet]
  obtain ⟨within, _⟩ := List.getElem?_eq_some_iff.mp stored
  refine ⟨stopped.context, retains, ?_, List.getElem?_set_self within⟩
  change (app.commit thread owner id context _).bound thread = some id
  rw [bound_commit, bound]

theorem exists_activeBound (reachable : app.Reachable) (bound : app.bound thread = some id)
    (found : app.contexts[id]? = some (.native owner context)) :
    (∃ span, app.activeBound thread = .ok span) ↔ context.active ≠ [] := by
  have shown : app.activeBound thread = context.activeSpan.map (.native id) := by
    unfold activeBound
    rw [bound]
    exact activeSpan_native found
  rw [shown]
  constructor
  · rintro ⟨span, top⟩ idle
    rw [Native.Context.activeSpan_of_idle idle] at top
    cases top
  · intro busy
    obtain ⟨index, rest, stack⟩ := List.exists_cons_of_ne_nil busy
    have top := (reachable.native found).sound.activeSpan_eq_ok.mpr ⟨index, rest, stack, rfl⟩
    rw [top]
    exact ⟨_, rfl⟩

/-- In a context without an active span, a failed exit span takes the thread out of it. -/
theorem lost_of_idle (reachable : app.Reachable) (bound : app.bound thread = some id)
    (found : app.contexts[id]? = some (.native owner context)) (idle : context.active = [])
    (fails : app.enterExit thread agent name peer carrier = (later, returned, .error error)) :
    ¬ Undisturbed app later thread ∧ later.isActive thread = false ∧
      ∀ other role name peer, app.IsNative other →
        later.nextParents? thread other role name peer = some [] := by
  have here : (app.obtain thread agent).app.contexts[(app.obtain thread agent).id]? =
      some (.native owner context) := by
    rw [obtain_of_bound agent bound]
    exact found
  obtain ⟨released, natives⟩ := released_of_refused (reachable.native found).sound idle here fails
  refine ⟨fun undisturbed => ?_, isActive_of_bound released, fun other role name peer tracer =>
    nextParents?_of_free released (natives other tracer) role name peer⟩
  have same := undisturbed.isActive
  rw [isActive_of_bound released, isActive_of_bound bound] at same
  cases same

/-- A failed exit span has no peer, and its carrier comes back as it was. It leaves no trace on the
thread exactly if the thread was in no context or had an active span. A thread that was in a
context without an active span is released, so that the next span continues nothing. -/
theorem failed_exit_undisturbed_iff (reachable : app.Reachable) (native : app.RunsNative thread agent)
    (fails : app.enterExit thread agent name peer carrier = (later, returned, .error error)) :
    error = .missingPeer ∧ returned = carrier ∧
      (Undisturbed app later thread ↔
        (app.isActive thread → ∃ span, app.activeBound thread = .ok span)) ∧
      (app.isActive thread → app.activeBound thread = .error .noActiveSpan →
        later.isActive thread = false ∧
          ∀ other role name peer, app.IsNative other →
            later.nextParents? thread other role name peer = some []) := by
  obtain ⟨owner, context, serves, found⟩ := obtain_native native
  obtain ⟨missing, kept, _⟩ := enterExit_refused found fails
  refine ⟨missing, kept, ?_⟩
  rcases serves with ⟨bound, owner, here⟩ | ⟨free, _, config, moment, rfl⟩
  · have active : app.isActive thread = true := isActive_of_bound bound
    have spans := exists_activeBound reachable bound here
    by_cases idle : context.active = []
    · obtain ⟨disturbed, lost⟩ := lost_of_idle reachable bound here idle fails
      exact ⟨⟨fun undisturbed => absurd undisturbed disturbed,
        fun always => absurd idle (spans.mp (always active))⟩, fun _ _ => lost⟩
    · obtain ⟨after, retains, boundLater, foundLater⟩ :=
        retains_of_refused (reachable.native here).sound (reachable.native here).attends idle bound
          here fails
      obtain ⟨span, top⟩ := spans.mpr idle
      refine ⟨⟨fun _ _ => ⟨span, top⟩, fun _ => ?_⟩, fun _ none => nomatch top.symm.trans none⟩
      exact undisturbed_of_retains (reachable.native here).sound retains bound here boundLater
        foundLater
  · have inactive : app.isActive thread = false := isActive_of_bound free
    obtain ⟨released, natives⟩ := released_of_refused (.begin config moment) rfl found fails
    rw [inactive]
    exact ⟨⟨fun _ => (nomatch ·), fun _ => undisturbed_of_free free released natives⟩,
      fun active => nomatch active⟩

def handedOver : Snapshot where
  anchor := some ⟨.begun "trace", "segment", 0, "/order"⟩
  correlation := {}

def continuing : Application := (service "stock").resumeBound 0 0 handedOver

def atWork : Application := (continuing.enterEntry 0 0 "/stock" none).1

def callNobody (app : Application) : Application × Option Carrier × Except TraceError SpanRef :=
  app.enterExit 0 0 "/call" "" (some {})

theorem continuing_reachable : continuing.Reachable :=
  ⟨0, 0, .holding [], [.addNative { service := "stock", instanceName := "instance" }
      (.counting 1) (.memory []),
    .perform 0 (.thread 0) (.resume handedOver)], rfl⟩

theorem atWork_reachable : atWork.Reachable :=
  ⟨0, 0, .holding [], [.addNative { service := "stock", instanceName := "instance" }
      (.counting 1) (.memory []),
    .perform 0 (.thread 0) (.resume handedOver),
    .perform 0 (.thread 0) (.create .entry "/stock" "" none)], rfl⟩

theorem callNobody_atWork :
    callNobody atWork = ((callNobody atWork).1, some {}, .error .missingPeer) := rfl

theorem call_disturbs_no_work :
    atWork.activeBound 0 = .ok (.native 0 ⟨0, 0⟩) ∧ Undisturbed atWork (callNobody atWork).1 0 := by
  have native : atWork.RunsNative 0 0 := ⟨_, _, rfl⟩
  obtain ⟨_, _, undisturbed, _⟩ :=
    failed_exit_undisturbed_iff atWork_reachable native callNobody_atWork
  exact ⟨rfl, undisturbed.mpr fun _ => ⟨.native 0 ⟨0, 0⟩, rfl⟩⟩

/-- Before the thread has a span, the failed call takes the trace away from it. -/
theorem failed_call_loses_trace :
    continuing.Reachable ∧ continuing.RunsNative 0 0 ∧
      (callNobody continuing).2.2 = .error .missingPeer ∧
      continuing.isActive 0 = true ∧ continuing.boundTraceId 0 = "trace" ∧
      continuing.nextParents? 0 0 .entry "/stock" "" =
        some [.ofAnchor ⟨.begun "trace", "segment", 0, "/order"⟩ "stock" "instance"] ∧
      (callNobody continuing).1.isActive 0 = false ∧
      (callNobody continuing).1.boundTraceId 0 = "N/A" ∧
      (callNobody continuing).1.nextParents? 0 0 .entry "/stock" "" = some [] :=
  ⟨continuing_reachable, ⟨_, _, rfl⟩, rfl, by decide +kernel, by decide +kernel, by decide +kernel,
    by decide +kernel, by decide +kernel, by decide +kernel⟩

end TraceAgent.Application
