import TraceAgent.Proofs.Application.EntryBracket
import TraceAgent.Proofs.Native.Nesting

/-! A thread that works through native agents.

Whichever of the agents is called, the call goes to the one context that the
thread is bound to. The entrances of its open segment are the spans that the
thread created and did not stop yet, so each call enters a span, leaves the one
on top, or keeps them all, and the thread is released with the last one.
-/

set_option autoImplicit false

namespace TraceAgent

open Propagation
open Segment (Role)

/-- A call that goes to the context of a thread through one of some agents, or to a span, or the
passing of time. -/
def Event.isCall (managers : List Nat) (thread : Nat) : Event → Bool
  | .perform other (.thread agent) _ => other == thread && managers.contains agent
  | .prepareAsync _ | .finishAsync _ | .setClock _ => true
  | _ => false

def Command.traceIds : Command → List String
  | .create _ _ _ (some carrier) | .extract carrier => [carrier.origin.traceId]
  | .resume snapshot => (snapshot.anchor.map (·.traceId.id)).toList
  | _ => []

def Event.traceIds : Event → List String
  | .perform _ _ command => command.traceIds
  | _ => []

def Event.continues : Event → Bool
  | .perform _ _ (.resume _) => true
  | _ => false

namespace Application

def creates (app : Application) : Event → Bool
  | .perform thread target (.create role name peer carrier) =>
      (app.perform thread target (.create role name peer carrier)).result.isOk
  | _ => false

def stops (app : Application) : Event → Bool
  | .perform thread target (.stop span) => (app.perform thread target (.stop span)).result.isOk
  | _ => false

def IsNative (app : Application) (agent : Nat) : Prop :=
  ∃ config ids reporter, app.agents[agent]? = some ⟨config, .native ids reporter⟩

section Agents

variable {app : Application} {thread agent other id : Nat}

theorem isNative_of_agents {later : Application} (native : app.IsNative other)
    (same : later.agents = app.agents) : later.IsNative other := by
  unfold IsNative at native ⊢
  rwa [same]

theorem isNative_setTracer (native : app.IsNative other) (ids : IdSource) (reporter : Reporter) :
    (app.setTracer agent (.native ids reporter)).IsNative other := by
  obtain ⟨config, source, sink, found⟩ := native
  unfold IsNative setTracer
  dsimp only
  rw [List.getElem?_modify, found]
  by_cases same : agent = other
  · exact ⟨config, ids, reporter, by simp [same]⟩
  · exact ⟨config, source, sink, by simp [same]⟩

theorem isNative_drawId (native : app.IsNative other) :
    (app.drawId thread agent).1.IsNative other := by
  unfold drawId
  split
  · exact isNative_setTracer native _ _
  · exact isNative_of_agents native rfl
  · exact isNative_setTracer native _ _
  all_goals exact native

theorem isNative_drawMoment (native : app.IsNative other) :
    (app.drawMoment thread agent).1.IsNative other := isNative_drawId (isNative_drawId native)

theorem isNative_commit (native : app.IsNative other) (before next : Native.Context) :
    (app.commit thread agent id before next).IsNative other := by
  unfold commit
  dsimp only
  split
  · exact isNative_of_agents (isNative_drawMoment native) rfl
  · exact isNative_of_agents native rfl

theorem isNative_report (native : app.IsNative other) (report : Option Segment) :
    (app.report agent report).IsNative other := by
  cases report with
  | none => exact native
  | some segment =>
    have noted : (app.note [.segmentFinished segment.id segment.spans.length]).IsNative other :=
      isNative_of_agents native rfl
    unfold Application.report collect
    dsimp only
    split
    · exact isNative_setTracer noted _ _
    · exact isNative_of_agents noted rfl
    all_goals exact noted

end Agents

/-- No generator that the application brings gives out the blank trace id. -/
def NamesTraces (app : Application) : Prop :=
  ∀ agent description ids reporter,
    app.tracer? agent = some (.native (.custom description ids) reporter) →
      ∀ n, ids n ≠ noTraceId

structure DrawsAllowed (app : Application) (allowed : String → Prop) : Prop where
  named : ∀ traceId, traceId ≠ noTraceId → allowed traceId
  custom : ∀ agent description ids reporter,
    app.tracer? agent = some (.native (.custom description ids) reporter) → ∀ n, allowed (ids n)

namespace DrawsAllowed

variable {app later : Application} {thread agent id : Nat} {allowed : String → Prop}

/-- An id that a generator of the agent itself draws is made of digits, or has dots in it. -/
theorem drawId (draws : app.DrawsAllowed allowed) (thread agent : Nat) :
    allowed (app.drawId thread agent).2 := by
  have apart : ∀ characters : List Char, characters ≠ noTraceId.toList →
      String.ofList characters ≠ noTraceId := by
    intro characters different same
    exact different (String.toList_ofList.symm.trans (congrArg String.toList same))
  unfold Application.drawId
  split
  next next _ _ =>
    refine draws.named _ (apart _ fun same => ?_)
    have digits : Nat.toDigits 10 next = noTraceId.toList := same
    have digit : 'N' ∈ Nat.toDigits 10 next := digits ▸ (by decide : 'N' ∈ noTraceId.toList)
    exact absurd (Numeral.isDigit_of_mem_toDigits digit) (by decide)
  next =>
    refine draws.named _ (apart _ fun same => ?_)
    have dotted : '.' ∈ noTraceId.toList := same ▸ List.mem_append_right _ List.mem_cons_self
    exact absurd dotted (by decide)
  next found => exact draws.custom _ _ _ _ found 0
  all_goals exact draws.named _ (by decide : "" ≠ noTraceId)

theorem of_agents (draws : app.DrawsAllowed allowed) (same : later.agents = app.agents) :
    later.DrawsAllowed allowed := by
  refine ⟨draws.named, fun agent description ids reporter found => ?_⟩
  unfold tracer? at found
  rw [same] at found
  exact draws.custom agent description ids reporter found

theorem setTracer (draws : app.DrawsAllowed allowed) (agent : Nat) {tracer : Tracer}
    (gives : ∀ description ids reporter, tracer = .native (.custom description ids) reporter →
      ∀ n, allowed (ids n)) : (app.setTracer agent tracer).DrawsAllowed allowed := by
  refine ⟨draws.named, fun other description ids reporter found => ?_⟩
  unfold tracer? Application.setTracer at found
  dsimp only at found
  rw [List.getElem?_modify, Option.map_eq_map, Option.map_map, Option.map_eq_some_iff] at found
  obtain ⟨known, here, same⟩ := found
  dsimp only [Function.comp_apply] at same
  split at same
  · exact gives description ids reporter same
  · refine draws.custom other description ids reporter ?_
    unfold tracer?
    rw [here]
    exact congrArg some same

theorem after_drawId (draws : app.DrawsAllowed allowed) (thread agent : Nat) :
    (app.drawId thread agent).1.DrawsAllowed allowed := by
  unfold Application.drawId
  split
  · exact draws.setTracer agent fun _ _ _ => (nomatch ·)
  · exact draws.of_agents rfl
  next found =>
    refine draws.setTracer agent ?_
    rintro _ _ _ ⟨⟩ n
    exact draws.custom _ _ _ _ found (n + 1)
  all_goals exact draws

theorem moment (draws : app.DrawsAllowed allowed) (thread agent : Nat) :
    allowed (app.moment thread agent).traceId :=
  (draws.after_drawId thread agent).drawId thread agent

theorem drawMoment (draws : app.DrawsAllowed allowed) (thread agent : Nat) :
    (app.drawMoment thread agent).1.DrawsAllowed allowed :=
  (draws.after_drawId thread agent).after_drawId thread agent

theorem commit (draws : app.DrawsAllowed allowed) (before next : Native.Context) :
    (app.commit thread agent id before next).DrawsAllowed allowed := by
  unfold Application.commit
  dsimp only
  split
  · exact (draws.drawMoment thread agent).of_agents rfl
  · exact draws.of_agents rfl

theorem report (draws : app.DrawsAllowed allowed) (report : Option Segment) :
    (app.report agent report).DrawsAllowed allowed := by
  cases report with
  | none => exact draws
  | some segment =>
    have noted :
        (app.note [.segmentFinished segment.id segment.spans.length]).DrawsAllowed allowed :=
      draws.of_agents rfl
    unfold Application.report collect
    dsimp only
    split
    next found =>
      refine noted.setTracer agent ?_
      rintro _ _ _ ⟨⟩
      exact noted.custom _ _ _ _ found
    · exact noted.of_agents rfl
    all_goals exact noted

end DrawsAllowed

structure Manages (app : Application) (managers : List Nat) (allowed : String → Prop) : Prop where
  natives : ∀ agent ∈ managers, app.IsNative agent
  draws : app.DrawsAllowed allowed

namespace Manages

variable {app later : Application} {managers : List Nat} {thread agent id : Nat}
  {allowed wider : String → Prop} (manages : app.Manages managers allowed)
include manages

theorem of_agents (same : later.agents = app.agents) : later.Manages managers allowed :=
  ⟨fun agent manager => isNative_of_agents (manages.natives agent manager) same,
    manages.draws.of_agents same⟩

theorem drawMoment (thread agent : Nat) :
    (app.drawMoment thread agent).1.Manages managers allowed :=
  ⟨fun other manager => isNative_drawMoment (manages.natives other manager),
    manages.draws.drawMoment thread agent⟩

theorem commit (before next : Native.Context) :
    (app.commit thread agent id before next).Manages managers allowed :=
  ⟨fun other manager => isNative_commit (manages.natives other manager) before next,
    manages.draws.commit before next⟩

theorem report (report : Option Segment) : (app.report agent report).Manages managers allowed :=
  ⟨fun other manager => isNative_report (manages.natives other manager) report,
    manages.draws.report report⟩

theorem mono (weaker : ∀ traceId, allowed traceId → wider traceId) :
    app.Manages managers wider :=
  ⟨manages.natives, fun traceId other => weaker _ (manages.draws.named traceId other),
    fun agent description ids reporter found n =>
      weaker _ (manages.draws.custom agent description ids reporter found n)⟩

end Manages

structure Runs (app : Application) (managers : List Nat) (thread id : Nat)
    (context : Native.Context) (allowed : String → Prop) : Prop where
  manages : app.Manages managers allowed
  bound : app.bound thread = some id
  found : ∃ owner, app.contexts[id]? = some (.native owner context)
  sound : context.Sound
  trace : context.InTrace allowed

def topmost : List SpanRef → Except TraceError SpanRef
  | [] => .error .noActiveSpan
  | span :: _ => .ok span

/-- The entrances of a thread that are not left yet, innermost first. A thread that works in no
context has none. -/
inductive Nests (app : Application) (managers : List Nat) (thread : Nat)
    (allowed : String → Prop) : List SpanRef → Prop where
  | free (manages : app.Manages managers allowed) (bound : app.bound thread = none) :
      Nests app managers thread allowed []
  | runs {id : Nat} {context : Native.Context}
      (runs : app.Runs managers thread id context allowed) :
      Nests app managers thread allowed (context.nest.map (.native id))

section Thread

variable {app later : Application} {managers : List Nat} {thread agent id owner : Nat}
  {context next : Native.Context} {allowed : String → Prop} {spans : List SpanRef}

namespace Runs

theorem commit (runs : app.Runs managers thread id context allowed)
    (found : app.contexts[id]? = some (.native owner context)) (before : Native.Context)
    (sound : next.Sound) (trace : next.InTrace allowed) :
    (app.commit thread owner id before next).Runs managers thread id next allowed where
  manages := runs.manages.commit before next
  bound := by rw [bound_commit]; exact runs.bound
  found := ⟨owner, getElem?_commit found⟩
  sound := sound
  trace := trace

theorem congr (runs : app.Runs managers thread id context allowed)
    (agents : later.agents = app.agents) (threads : later.threads = app.threads)
    (contexts : later.contexts = app.contexts) :
    later.Runs managers thread id context allowed where
  manages := runs.manages.of_agents agents
  bound := by rw [bound_of_threads threads]; exact runs.bound
  found := by rw [contexts]; exact runs.found
  sound := runs.sound
  trace := runs.trace

theorem note (runs : app.Runs managers thread id context allowed)
    (diagnostics : List Diagnostic) :
    (app.note diagnostics).Runs managers thread id context allowed := runs.congr rfl rfl rfl

theorem report (runs : app.Runs managers thread id context allowed) (agent : Nat)
    (report : Option Segment) :
    (app.report agent report).Runs managers thread id context allowed where
  manages := runs.manages.report report
  bound := by rw [bound_report]; exact runs.bound
  found := by rw [contexts_report]; exact runs.found
  sound := runs.sound
  trace := runs.trace

theorem setContext (runs : app.Runs managers thread id context allowed) (owner : Nat)
    (sound : next.Sound) (trace : next.InTrace allowed) :
    (app.setContext id (.native owner next)).Runs managers thread id next allowed where
  manages := runs.manages.of_agents rfl
  bound := runs.bound
  found := by
    obtain ⟨_, found⟩ := runs.found
    obtain ⟨bound, _⟩ := List.getElem?_eq_some_iff.mp found
    exact ⟨owner, List.getElem?_set_self bound⟩
  sound := sound
  trace := trace

theorem setOther (runs : app.Runs managers thread id context allowed) {other : Nat}
    (different : other ≠ id) (changed : TracingContext) :
    (app.setContext other changed).Runs managers thread id context allowed where
  manages := runs.manages.of_agents rfl
  bound := runs.bound
  found := by
    obtain ⟨owner, found⟩ := runs.found
    exact ⟨owner, (List.getElem?_set_ne different).trans found⟩
  sound := runs.sound
  trace := runs.trace

theorem createSpan (runs : app.Runs managers thread id context allowed)
    (role : Role) (name peer : String) :
    ∃ later key next, app.createSpan thread id role name peer = (later, .ok (.native id key)) ∧
      later.Runs managers thread id next allowed ∧ next.nest = key :: context.nest := by
  obtain ⟨owner, found⟩ := runs.found
  have drawn := runs.manages.draws.moment thread owner
  rw [createSpan_native thread role name peer found]
  exact ⟨_, _, _, rfl, runs.commit found context (runs.sound.createSpan _ role name peer)
    (runs.trace.createSpan (fun _ => drawn) role name peer),
    runs.sound.nest_createSpan _ role name peer⟩

theorem extract (runs : app.Runs managers thread id context allowed)
    {carrier : Carrier}
    (brought : allowed carrier.origin.traceId) :
    ∃ later next, app.extract thread id carrier = (later, carrier) ∧
      later.Runs managers thread id next allowed ∧ next.nest = context.nest := by
  obtain ⟨owner, found⟩ := runs.found
  have drawn := runs.manages.draws.moment thread owner
  rw [extract_native thread carrier found]
  exact ⟨_, _, rfl, (runs.commit found context (runs.sound.extract _ carrier)
    (runs.trace.extract (fun _ _ => drawn) fun _ => brought)).note _,
    Native.Context.nest_extract _ carrier⟩

theorem resume (runs : app.Runs managers thread id context allowed)
    {snapshot : Snapshot}
    (brought : ∀ anchor, snapshot.anchor = some anchor → allowed anchor.traceId.id) :
    ∃ next, (app.resume thread id snapshot).Runs managers thread id next allowed ∧
      next.nest = context.nest := by
  obtain ⟨owner, found⟩ := runs.found
  have drawn := runs.manages.draws.moment thread owner
  have sound := runs.sound.change
    (Native.Context.resume_change context (app.moment thread owner) snapshot)
  unfold Application.resume
  rw [found]
  exact ⟨_, (runs.commit found context sound (runs.trace.resume (fun _ _ => drawn)
    fun anchor anchored _ => brought anchor anchored)).note _, Native.Context.nest_resume _ snapshot⟩

theorem activeSpan (runs : app.Runs managers thread id context allowed) :
    app.activeSpan thread id = topmost (context.nest.map (.native id)) := by
  obtain ⟨owner, found⟩ := runs.found
  rw [activeSpan_native found, runs.sound.activeSpan_eq]
  cases context.nest <;> rfl

/-- Stopping the span on top of the nest takes it away, and releases the thread with the last
one. -/
theorem finishSpan (runs : app.Runs managers thread id context allowed)
    {key : Native.SpanKey} {rest : List Native.SpanKey} (nest : context.nest = key :: rest) :
    ∃ later, app.finishSpan thread id (.native id key) = (later, .ok ()) ∧
      later.Nests managers thread allowed (rest.map (.native id)) ∧
      later.bound thread = if rest.map (SpanRef.native id) = [] then none else some id := by
  obtain ⟨owner, found⟩ := runs.found
  have top : context.activeSpan = .ok key := by rw [runs.sound.activeSpan_eq, nest]
  obtain ⟨stopped, stops⟩ := context.stopSpan_active app.now top
  obtain ⟨opened, index, others, current, active, same, rfl⟩ :=
    Native.Context.stopSpan_eq_ok.mp stops
  obtain ⟨taken, idle⟩ := runs.sound.nest_leaveTop current active app.now
  rw [nest] at taken
  have left : rest = (context.leaveTop app.now opened index).context.nest :=
    (List.cons.inj taken).2
  have changed := runs.setContext owner (runs.sound.leaveTop current active)
    (runs.trace.leaveTop current app.now index)
  have after := changed.report owner (context.leaveTop app.now opened index).report
  unfold Application.finishSpan
  rw [stopSpan_native found stops, idle, ← left]
  cases rest with
  | nil =>
    exact ⟨_, rfl, .free (after.manages.of_agents rfl) (bound_bind none), bound_bind none⟩
  | cons outer rest =>
    refine ⟨_, rfl, ?_, after.bound⟩
    rw [left]
    exact .runs after

theorem finishSpan_cases (runs : app.Runs managers thread id context allowed) (span : SpanRef) :
    (∃ error, app.finishSpan thread id span = (app, .error error)) ∨
      ∃ key rest, span = .native id key ∧ context.nest = key :: rest := by
  obtain ⟨owner, found⟩ := runs.found
  cases stops : context.stopSpan app.now (argument id span) with
  | error error =>
    left
    refine ⟨error, ?_⟩
    unfold Application.finishSpan stopSpan
    rw [found]
    unfold stopNative
    dsimp only
    rw [stops]
  | ok stopped =>
    right
    obtain ⟨opened, index, others, current, active, same, _⟩ :=
      Native.Context.stopSpan_eq_ok.mp stops
    obtain ⟨taken, _⟩ := runs.sound.nest_leaveTop current active app.now
    refine ⟨_, _, ?_, taken⟩
    -- Only a span of this context is taken for one of its own.
    unfold argument at same
    split at same
    next other key =>
      split at same
      next here =>
        cases same
        rw [here]
      next => cases same
    next => cases same

theorem createOrRelease (obtained : Obtained)
    (runs : obtained.app.Runs managers thread obtained.id context allowed)
    (role : Role) (name peer : String) :
    ∃ later key next,
      Application.createOrRelease obtained thread role name peer =
        (later, .ok (.native obtained.id key)) ∧
      later.Runs managers thread obtained.id next allowed ∧ next.nest = key :: context.nest := by
  obtain ⟨later, key, next, creates, after, nest⟩ := runs.createSpan role name peer
  exact ⟨later, key, next, (createOrRelease_eq_ok _ _ _ _ _).mpr creates, after, nest⟩

end Runs

namespace Nests

theorem congr (nests : app.Nests managers thread allowed spans)
    (agents : later.agents = app.agents) (threads : later.threads = app.threads)
    (contexts : later.contexts = app.contexts) : later.Nests managers thread allowed spans := by
  cases nests with
  | free manages bound =>
    refine .free (manages.of_agents agents) ?_
    rw [bound_of_threads threads]
    exact bound
  | runs runs => exact .runs (runs.congr agents threads contexts)

theorem note (nests : app.Nests managers thread allowed spans) (diagnostics : List Diagnostic) :
    (app.note diagnostics).Nests managers thread allowed spans := nests.congr rfl rfl rfl

theorem report (nests : app.Nests managers thread allowed spans) (agent : Nat)
    (report : Option Segment) :
    (app.report agent report).Nests managers thread allowed spans := by
  cases nests with
  | free manages bound =>
    refine .free (manages.report report) ?_
    rw [bound_report]
    exact bound
  | runs runs => exact .runs (runs.report agent report)

theorem edit (nests : app.Nests managers thread allowed spans)
    (found : app.contexts[id]? = some (.native owner context))
    (sound : context.Sound → next.Sound) (nest : context.Sound → next.nest = context.nest)
    (trace : context.InTrace allowed → next.InTrace allowed) :
    (app.setContext id (.native owner next)).Nests managers thread allowed spans := by
  cases nests with
  | free manages bound =>
    exact .free (manages.of_agents rfl) bound
  | @runs here running runs =>
    by_cases same : id = here
    · subst same
      obtain ⟨_, known⟩ := runs.found
      cases known.symm.trans found
      rw [← nest runs.sound]
      exact .runs (runs.setContext owner (sound runs.sound) (trace runs.trace))
    · exact .runs (runs.setOther same _)

theorem mono (nests : app.Nests managers thread allowed spans) {wider : String → Prop}
    (weaker : ∀ traceId, allowed traceId → wider traceId) :
    app.Nests managers thread wider spans := by
  cases nests with
  | free manages bound => exact .free (manages.mono weaker) bound
  | runs runs =>
    exact .runs ⟨runs.manages.mono weaker, runs.bound, runs.found, runs.sound,
      runs.trace.mono weaker⟩

theorem obtain (nests : app.Nests managers thread allowed spans)
    (manager : agent ∈ managers) :
    ∃ context,
      (app.obtain thread agent).app.Runs managers thread (app.obtain thread agent).id context
        allowed ∧
      spans = context.nest.map (.native (app.obtain thread agent).id) ∧
      (spans = [] ∨ app.bound thread = some (app.obtain thread agent).id) := by
  cases nests with
  | @runs id context runs =>
    rw [obtain_of_bound agent runs.bound]
    exact ⟨context, runs, rfl, .inr runs.bound⟩
  | free manages bound =>
    obtain ⟨config, ids, reporter, known⟩ := manages.natives agent manager
    have drawn := manages.draws.moment thread agent
    refine ⟨.begin config (app.moment thread agent), ⟨?_, app.bound_obtain thread agent, ?_,
      .begin config _, .begin config drawn⟩, rfl, .inl rfl⟩
    all_goals unfold Application.obtain createContext; rw [bound]; dsimp only; rw [known]
    · exact (manages.drawMoment thread agent).of_agents rfl
    · refine ⟨agent, ?_⟩
      dsimp only
      rw [contexts_bind, contexts_drawMoment]
      exact List.getElem?_concat_length

end Nests

/-- What an attempt to create a span comes to: the span is on top, or nothing is left of it. -/
inductive Entered (managers : List Nat) (thread id : Nat) (allowed : String → Prop)
    (spans : List SpanRef) : Application × Option Carrier × Except TraceError SpanRef → Prop where
  | created {later : Application} {next : Native.Context} {key : Native.SpanKey}
      {rest : List Native.SpanKey} (returned : Option Carrier)
      (runs : later.Runs managers thread id next allowed) (nest : next.nest = key :: rest)
      (same : spans = rest.map (.native id)) :
      Entered managers thread id allowed spans (later, returned, .ok (.native id key))
  | failed {later : Application} (returned : Option Carrier) (error : TraceError)
      (nests : later.Nests managers thread allowed spans)
      (bound : later.bound thread = if spans = [] then none else some id) :
      Entered managers thread id allowed spans (later, returned, .error error)

/-- Creating a span through any of the agents. -/
theorem Nests.enter (nests : app.Nests managers thread allowed spans)
    (manager : agent ∈ managers)
    (role : Role) (name peer : String) {carrier : Option Carrier}
    (brought : ∀ received, carrier = some received → allowed received.origin.traceId) :
    Entered managers thread (app.obtain thread agent).id allowed spans
      (app.enter thread agent role name peer carrier) := by
  obtain ⟨context, runs, same, _⟩ := nests.obtain manager
  cases role with
  | inner =>
    obtain ⟨later, key, next, creates, after, nest⟩ :=
      Runs.createOrRelease _ runs .inner (cutName name) ""
    unfold Application.enter enterInner
    dsimp only
    rw [creates]
    exact .created carrier after nest same
  | entry =>
    unfold Application.enter enterEntry
    cases carrier with
    | none =>
      obtain ⟨later, key, next, creates, after, nest⟩ :=
        Runs.createOrRelease _ runs .entry (cutName name) ""
      dsimp only
      rw [creates]
      exact .created none after nest same
    | some carrier =>
      obtain ⟨continued, linked, extracts, within, kept⟩ := runs.extract (brought carrier rfl)
      dsimp only
      rw [extracts]
      obtain ⟨later, key, next, creates, after, nest⟩ :=
        Runs.createOrRelease { app.obtain thread agent with app := continued } within
          .entry (cutName name) ""
      rw [creates]
      exact .created (some carrier) after (nest.trans (congrArg (key :: ·) kept)) same
  | exit =>
    obtain ⟨later, key, next, creates, after, nest⟩ :=
      Runs.createOrRelease _ runs .exit (cutName name) peer
    unfold Application.enter enterExit
    dsimp only
    rw [creates]
    cases carrier with
    | none => exact .created none after nest same
    | some carrier =>
      dsimp only
      cases later.inject thread (app.obtain thread agent).id carrier with
      | ok prepared => exact .created (some prepared) after nest same
      | error error =>
        -- The span that cannot be prepared was on top, so stopping it undoes its creation.
        obtain ⟨undone, stops, left, bound⟩ := after.finishSpan nest
        dsimp only
        rw [stops]
        subst same
        exact .failed (some carrier) error left bound

/-- What an attempt to stop a span comes to: the span on top is left, or nothing happens. -/
inductive Left (app : Application) (managers : List Nat) (thread : Nat)
    (allowed : String → Prop) : List SpanRef → Application × Except TraceError Unit → Prop where
  | refused {spans : List SpanRef} (error : TraceError) :
      Left app managers thread allowed spans (app, .error error)
  | stopped {later : Application} {span : SpanRef} {rest : List SpanRef}
      (nests : later.Nests managers thread allowed rest)
      (bound : later.bound thread = if rest = [] then none else app.bound thread) :
      Left app managers thread allowed (span :: rest) (later, .ok ())

theorem Runs.left (runs : app.Runs managers thread id context allowed) {key : Native.SpanKey}
    {rest : List Native.SpanKey} (nest : context.nest = key :: rest) :
    app.Left managers thread allowed (context.nest.map (.native id))
      (app.finishSpan thread id (.native id key)) := by
  obtain ⟨later, stops, nests, bound⟩ := runs.finishSpan nest
  rw [stops, nest]
  refine .stopped nests ?_
  rw [bound, runs.bound]

namespace Nests

theorem stopBound (nests : app.Nests managers thread allowed spans) (span : SpanRef) :
    app.Left managers thread allowed spans (app.stopBound thread span) := by
  unfold Application.stopBound running
  cases nests with
  | free manages bound =>
    rw [bound]
    exact .refused _
  | runs runs =>
    rw [runs.bound]
    rcases runs.finishSpan_cases span with ⟨error, fails⟩ | ⟨key, rest, rfl, nest⟩
    · dsimp only
      rw [fails]
      exact .refused error
    · exact runs.left nest

theorem activeBound (nests : app.Nests managers thread allowed spans) :
    app.activeBound thread = topmost spans := by
  unfold Application.activeBound
  cases nests with
  | free manages bound =>
    rw [bound]
    rfl
  | runs runs =>
    rw [runs.bound]
    exact runs.activeSpan

theorem stopActive (nests : app.Nests managers thread allowed spans) :
    app.Left managers thread allowed spans (app.stopActive thread) := by
  unfold Application.stopActive running
  cases nests with
  | free manages bound =>
    rw [bound]
    exact .refused _
  | @runs id context runs =>
    rw [runs.bound]
    dsimp only
    rw [runs.activeSpan]
    cases nest : context.nest with
    | nil => exact .refused _
    | cons key rest =>
      have left := runs.left nest
      rw [nest] at left
      exact left

end Nests

/-- How a call changes the entrances of a thread. -/
inductive Turn (app : Application) (thread : Nat) (event : Event) :
    List SpanRef → List SpanRef → Prop where
  | stay {spans : List SpanRef} (creates : app.creates event = false)
      (stops : app.stops event = false)
      (bound : (app.after event).bound thread = app.bound thread ∨
        spans = [] ∧ ((app.after event).bound thread = none ∨ event.continues)) :
      Turn app thread event spans spans
  | enter {span : SpanRef} {spans : List SpanRef} (creates : app.creates event = true)
      (stops : app.stops event = false)
      (bound : spans = [] ∨ (app.after event).bound thread = app.bound thread) :
      Turn app thread event spans (span :: spans)
  | leave {span : SpanRef} {rest : List SpanRef} (creates : app.creates event = false)
      (stops : app.stops event = true)
      (bound : (app.after event).bound thread = if rest = [] then none else app.bound thread) :
      Turn app thread event (span :: rest) rest

def Advances (app : Application) (managers : List Nat) (thread : Nat) (allowed : String → Prop)
    (spans : List SpanRef) (event : Event) : Prop :=
  ∃ next, (app.after event).Nests managers thread allowed next ∧
    app.Turn thread event spans next

namespace Nests

variable {role : Role} {name peer : String} {carrier : Option Carrier} {snapshot : Snapshot}

theorem stay {event : Event} (after : app.after event = later)
    (nests : later.Nests managers thread allowed spans) (creates : app.creates event = false)
    (stops : app.stops event = false) (bound : later.bound thread = app.bound thread) :
    app.Advances managers thread allowed spans event := by
  subst after
  exact ⟨spans, nests, .stay creates stops (.inl bound)⟩

theorem after_create (nests : app.Nests managers thread allowed spans)
    (manager : agent ∈ managers)
    (brought : ∀ received, carrier = some received → allowed received.origin.traceId) :
    app.Advances managers thread allowed spans
      (.perform thread (.thread agent) (.create role name peer carrier)) := by
  have entered := nests.enter manager role name peer brought
  obtain ⟨_, _, _, before⟩ := nests.obtain manager
  generalize enters : app.enter thread agent role name peer carrier = outcome at entered
  have performed : app.perform thread (.thread agent) (.create role name peer carrier) =
      ⟨outcome.1, outcome.2.1, outcome.2.2.map .span⟩ := by
    rw [← enters]
    rfl
  have after : app.after (.perform thread (.thread agent) (.create role name peer carrier)) =
      outcome.1 := congrArg Outcome.app performed
  have created := congrArg (·.result.isOk) performed
  cases entered with
  | created returned runs nest same =>
    refine ⟨_, by rw [after]; exact .runs runs, ?_⟩
    rw [nest, List.map_cons, ← same]
    refine .enter created rfl (before.imp_right fun bound => ?_)
    exact (congrArg (·.bound thread) after).trans (runs.bound.trans bound.symm)
  | failed returned error unchanged bound =>
    refine ⟨spans, by rw [after]; exact unchanged, .stay created rfl ?_⟩
    have released := (congrArg (·.bound thread) after).trans bound
    rcases before with none | bound
    · exact .inr ⟨none, .inl (released.trans (if_pos none))⟩
    · by_cases none : spans = []
      · exact .inr ⟨none, .inl (released.trans (if_pos none))⟩
      · exact .inl (released.trans ((if_neg none).trans bound.symm))

theorem after_stopping (nests : app.Nests managers thread allowed spans) {span : Option SpanRef}
    {outcome : Application × Except TraceError Unit}
    (left : app.Left managers thread allowed spans outcome)
    (performed : app.perform thread (.thread agent) (.stop span) =
      ⟨outcome.1, none, outcome.2.map fun () => .done⟩) :
    app.Advances managers thread allowed spans
      (.perform thread (.thread agent) (.stop span)) := by
  have after : app.after (.perform thread (.thread agent) (.stop span)) = outcome.1 :=
    congrArg Outcome.app performed
  have ended := congrArg (·.result.isOk) performed
  cases left with
  | refused error => exact stay after nests rfl ended rfl
  | stopped rest bound =>
    exact ⟨_, by rw [after]; exact rest,
      .leave rfl ended ((congrArg (·.bound thread) after).trans bound)⟩

theorem after_stop (nests : app.Nests managers thread allowed spans) (span : Option SpanRef) :
    app.Advances managers thread allowed spans
      (.perform thread (.thread agent) (.stop span)) := by
  cases span with
  | some span => exact nests.after_stopping (nests.stopBound span) rfl
  | none => exact nests.after_stopping nests.stopActive rfl

theorem after_extract (nests : app.Nests managers thread allowed spans)
    {carrier : Carrier}
    (brought : allowed carrier.origin.traceId) :
    app.Advances managers thread allowed spans
      (.perform thread (.thread agent) (.extract carrier)) := by
  have after : app.after (.perform thread (.thread agent) (.extract carrier)) =
      (app.extractBound thread carrier).1 := rfl
  unfold extractBound running at after
  cases nests with
  | free manages bound =>
    rw [bound] at after
    exact stay after (.free manages bound) rfl rfl rfl
  | runs runs =>
    obtain ⟨later, next, extracts, within, nest⟩ := runs.extract brought
    rw [runs.bound] at after
    dsimp only at after
    rw [extracts] at after
    have kept := within.bound.trans runs.bound.symm
    rw [← nest]
    exact stay after (.runs within) rfl rfl kept

theorem after_resume (nests : app.Nests managers thread allowed spans)
    (manager : agent ∈ managers)
    (brought : ∀ anchor, snapshot.anchor = some anchor → allowed anchor.traceId.id) :
    app.Advances managers thread allowed spans
      (.perform thread (.thread agent) (.resume snapshot)) := by
  have after : app.after (.perform thread (.thread agent) (.resume snapshot)) =
      app.resumeBound thread agent snapshot := rfl
  unfold resumeBound at after
  split at after
  · exact stay after (nests.note _) rfl rfl rfl
  · obtain ⟨context, runs, same, before⟩ := nests.obtain manager
    obtain ⟨next, resumed, nest⟩ := runs.resume brought
    refine ⟨spans, ?_, .stay rfl rfl ?_⟩
    · rw [same, ← nest, after]
      exact .runs resumed
    · rcases before with none | bound
      · exact .inr ⟨none, .inr rfl⟩
      · exact .inl ((congrArg (·.bound thread) after).trans (resumed.bound.trans bound.symm))

theorem after_perform (nests : app.Nests managers thread allowed spans)
    (manager : agent ∈ managers)
    {command : Command} (brought : ∀ traceId ∈ command.traceIds, allowed traceId) :
    app.Advances managers thread allowed spans (.perform thread (.thread agent) command) := by
  cases command with
  | create role name peer carrier =>
    refine nests.after_create manager ?_
    rintro received rfl
    exact brought _ List.mem_cons_self
  | stop span => exact nests.after_stop span
  | extract carrier => exact nests.after_extract (brought _ List.mem_cons_self)
  | resume snapshot =>
    refine nests.after_resume manager fun anchor anchored => brought _ ?_
    unfold Command.traceIds
    dsimp only
    rw [anchored]
    exact List.mem_cons_self
  | inject carrier =>
    have after : app.after (.perform thread (.thread agent) (.inject carrier)) = app := by
      unfold Application.after perform performBound
      dsimp only
      split <;> rfl
    exact stay after nests rfl rfl rfl
  | _ => exact stay rfl nests rfl rfl rfl

theorem after_prepareAsync (nests : app.Nests managers thread allowed spans) (span : SpanRef) :
    app.Advances managers thread allowed spans (.prepareAsync span) := by
  have after : app.after (.prepareAsync span) = (app.prepareAsync span).1 := rfl
  cases span with
  | zipkin index => exact stay rfl (nests.congr rfl rfl rfl) rfl rfl rfl
  | native id key =>
    unfold Application.prepareAsync at after
    dsimp only at after
    split at after
    · exact stay after nests rfl rfl rfl
    · split at after
      next owner context found =>
        cases prepared : context.prepareAsync key with
        | error error =>
          rw [prepared] at after
          exact stay after nests rfl rfl rfl
        | ok next =>
          rw [prepared] at after
          obtain ⟨ready, rfl⟩ := Native.Context.prepareAsync_eq_ok.mp prepared
          have prepares (sound : context.Sound) :
              (context.modifySpan key (·.awaiting)).Sound :=
            sound.modifySpan key fun _ positive => positive
          have edited := nests.edit found (fun sound => (prepares sound).awaitCompletion)
            (fun _ => Native.Context.nest_modifySpan key fun _ => rfl)
            (fun trace => trace.modifySpan key (·.awaiting))
          exact stay after edited rfl rfl rfl
      · exact stay after nests rfl rfl rfl
      · exact stay after nests rfl rfl rfl

theorem after_finishAsync (nests : app.Nests managers thread allowed spans) (span : SpanRef) :
    app.Advances managers thread allowed spans (.finishAsync span) := by
  have after : app.after (.finishAsync span) = (app.finishAsync span).1 := rfl
  unfold Application.finishAsync at after
  cases span with
  | zipkin index =>
    dsimp only at after
    unfold finishZipkin at after
    split at after
    · exact stay after (nests.congr rfl rfl rfl) rfl rfl rfl
    · exact stay after nests rfl rfl rfl
  | native id key =>
    dsimp only at after
    split at after
    next owner context found =>
      cases finished : context.finishAsync app.now key with
      | error error =>
        rw [finished] at after
        exact stay after nests rfl rfl rfl
      | ok outcome =>
        rw [finished] at after
        obtain ⟨awaited, rfl⟩ := Native.Context.finishAsync_eq_ok.mp finished
        have completed (sound : context.Sound) :
            (context.modifySpan key (·.completedAt app.now)).Sound :=
          sound.modifySpan key fun _ positive => positive
        have edited := nests.edit found (fun sound => (completed sound).complete)
          (fun sound => (completed sound).nest_complete.trans
            (Native.Context.nest_modifySpan key fun _ => rfl))
          (fun trace => (trace.modifySpan key (·.completedAt app.now)).complete)
        have reported := (edited.note (context.asyncStopDiagnostics (.own key))).report owner
        refine stay after (reported _) rfl rfl ?_
        rw [bound_report]
        rfl
    · exact stay after nests rfl rfl rfl
    · exact stay after nests rfl rfl rfl

/-- Every call to a thread enters a span, leaves the one on top, or keeps them all. -/
theorem advances (nests : app.Nests managers thread allowed spans)
    {event : Event}
    (call : event.isCall managers thread) (brought : ∀ traceId ∈ event.traceIds, allowed traceId) :
    app.Advances managers thread allowed spans event := by
  cases event with
  | setClock clock => exact stay rfl (nests.congr rfl rfl rfl) rfl rfl rfl
  | prepareAsync span => exact nests.after_prepareAsync span
  | finishAsync span => exact nests.after_finishAsync span
  | perform other target command =>
    cases target with
    | context id => cases call
    | thread agent =>
      obtain ⟨same, manager⟩ := Bool.and_eq_true_iff.mp call
      cases beq_iff_eq.mp same
      exact nests.after_perform (List.contains_iff_mem.mp manager) brought
  | _ => cases call

end Nests

end Thread

end Application

end TraceAgent
