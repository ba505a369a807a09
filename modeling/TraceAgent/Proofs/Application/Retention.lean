import TraceAgent.Proofs.Application.Steps
import TraceAgent.Proofs.Application.Evolution
import TraceAgent.Proofs.Zipkin.State

/-! What stays of a Zipkin span.

A span keeps its telemetry context whatever happens, so a context runs it under
the identity that it has. Its provider stays too, and changes by nothing but the
calls that it gets.
-/

set_option autoImplicit false

namespace TraceAgent

open Propagation
open Segment (Role)

namespace Zipkin.State

variable {state later last : State} {span : Span} {index : Nat}

theorem getElem?_of_grown {spans more : List Span}
    (grown : spans.map (·.context) <+: more.map (·.context)) (listed : spans[index]? = some span) :
    ∃ kept, more[index]? = some kept ∧ kept.context = span.context := by
  obtain ⟨rest, grown⟩ := grown
  obtain ⟨within, _⟩ := List.getElem?_eq_some_iff.mp listed
  have there : (more.map (·.context))[index]? = some span.context := by
    rw [← grown, List.getElem?_append_left (by simpa using within), List.getElem?_map, listed]
    rfl
  rw [List.getElem?_map] at there
  exact Option.map_eq_some_iff.mp there

/-- Spans stay with their telemetry contexts, and their providers stay. A span that runs did so
before, or is listed under its identity. -/
structure Retains (state later : State) : Prop where
  listed : state.spans.map (·.context) <+: later.spans.map (·.context)
  evolves : state.recorder.Evolves later.recorder
  running : ∀ entry ∈ later.context.running, entry ∈ state.context.running ∨
    ∃ span, later.spans[entry.2]? = some span ∧ span.identity = entry.1

namespace Retains

theorem of_same (spans : later.spans = state.spans) (recorder : state.recorder.Evolves later.recorder)
    (running : later.context.running ⊆ state.context.running) : Retains state later :=
  ⟨spans ▸ List.prefix_refl _, recorder, fun _ member => .inl (running member)⟩

theorem trans (first : Retains state later) (second : Retains later last) : Retains state last where
  listed := first.listed.trans second.listed
  evolves := first.evolves.trans second.evolves
  running := by
    intro entry member
    rcases second.running entry member with before | listed
    · rcases first.running entry before with earlier | ⟨span, there, same⟩
      · exact .inl earlier
      · obtain ⟨kept, here, context⟩ := getElem?_of_grown second.listed there
        exact .inr ⟨kept, here, (congrArg Telemetry.Context.identity context).trans same⟩
    · exact .inr listed

end Retains

theorem retains_adding (state : State) (span : Span) : Retains state (state.adding span) where
  listed := by simp [adding]
  evolves := .refl _
  running := by
    intro entry member
    rcases List.mem_append.mp member with before | new
    · exact .inl before
    · cases List.mem_singleton.mp new
      exact .inr ⟨span, List.getElem?_concat_length, rfl⟩

theorem retains_startSpan (state : State) (now : Int) (kind : Telemetry.Kind) (name : String)
    (use : Span → Span) : Retains state (state.startSpan now kind name use).1 := by
  have started := state.recorder.evolves_start state.context.provider state.context.scope now kind name
    state.scopes.current
  unfold startSpan
  dsimp only
  split
  next registered _ result =>
    obtain ⟨_, _, rfl, _⟩ := register_eq_ok.mp result
    have drawn : Retains state { state with recorder := (state.recorder.start state.context.provider
        state.context.scope now kind name state.scopes.current).1 } :=
      .of_same rfl started (List.Subset.refl _)
    exact drawn.trans (retains_adding _ _)
  next =>
    exact .of_same rfl (started.trans (Telemetry.Recorder.evolves_call _ _ _))
      (List.Subset.refl _)

theorem retains_startExit (state : State) (now : Int) (name peer : String) :
    Retains state (state.startExit now name peer).1 := by
  have started := state.retains_startSpan now .client name ({ · with isExit := true })
  unfold startExit
  split
  next result =>
    rw [result] at started
    refine started.trans ?_
    unfold changeSpan
    split
    · exact .of_same rfl (Telemetry.Recorder.evolves_call _ _ _) (List.Subset.refl _)
    · exact .of_same rfl (.refl _) (List.Subset.refl _)
  next result =>
    rw [result] at started
    exact started

theorem retains_finishSpan (state : State) (now : Int) (index : Nat) :
    Retains state (state.finishSpan now index) := by
  unfold finishSpan
  split
  · exact .of_same rfl (Telemetry.Recorder.evolves_call _ _ _) (List.Subset.refl _)
  · exact .of_same rfl (.refl _) (List.Subset.refl _)

theorem retains_stopSpan (state : State) (now : Int) (index : Nat) :
    Retains state (state.stopSpan now index).1 := by
  have finished := state.retains_finishSpan now index
  unfold stopSpan
  split
  · exact .of_same rfl (.refl _) (List.Subset.refl _)
  next span _ =>
    have ended : Retains state (if span.isAsync then state else state.finishSpan now index) := by
      split
      · exact .of_same rfl (.refl _) (List.Subset.refl _)
      · exact finished
    exact ⟨ended.listed, ended.evolves, fun _ member => .inl ((List.mem_filter.mp member).1)⟩

end Zipkin.State

namespace Application

variable {app later last : Application} {thread id index : Nat}

def KeepsZipkin (app later : Application) : Prop :=
  ∀ (id : Nat) (context : Zipkin.Context), later.contexts[id]? = some (.zipkin context) →
    app.contexts[id]? = some (.zipkin context)

theorem KeepsZipkin.of_contexts (same : later.contexts = app.contexts) : KeepsZipkin app later :=
  fun _ _ found => same ▸ found

theorem KeepsZipkin.of_set {agent : Nat} {context : Native.Context}
    (changed : later.contexts = app.contexts.set id (.native agent context)) :
    KeepsZipkin app later := by
  intro other zipkin found
  rw [changed, List.getElem?_set] at found
  split at found
  · split at found <;> cases found
  · exact found

/-- Zipkin spans stay with their telemetry contexts, and their providers stay. A span that runs in
a context did so before, or is listed under its identity. -/
structure Retains (app later : Application) : Prop where
  listed : app.zipkinSpans.map (·.context) <+: later.zipkinSpans.map (·.context)
  evolves : app.recorder.Evolves later.recorder
  running : ∀ (id : Nat) (context : Zipkin.Context),
    later.contexts[id]? = some (.zipkin context) → ∀ entry ∈ context.running,
      (∃ before, app.contexts[id]? = some (.zipkin before) ∧ entry ∈ before.running) ∨
      ∃ span, later.zipkinSpans[entry.2]? = some span ∧ span.identity = entry.1

namespace Retains

theorem of_recorder (spans : later.zipkinSpans = app.zipkinSpans)
    (recorder : app.recorder.Evolves later.recorder) (contexts : KeepsZipkin app later) :
    Retains app later :=
  ⟨spans ▸ List.prefix_refl _, recorder,
    fun id context found _ member => .inl ⟨context, contexts id context found, member⟩⟩

theorem of_same (spans : later.zipkinSpans = app.zipkinSpans)
    (recorder : later.recorder = app.recorder) (contexts : KeepsZipkin app later) :
    Retains app later :=
  .of_recorder spans (recorder ▸ .refl _) contexts

theorem refl (app : Application) : Retains app app := .of_same rfl rfl (.of_contexts rfl)

theorem context {span : Zipkin.Span} (retains : Retains app later)
    (listed : app.zipkinSpans[index]? = some span) :
    ∃ kept, later.zipkinSpans[index]? = some kept ∧ kept.context = span.context :=
  Zipkin.State.getElem?_of_grown retains.listed listed

theorem trans (first : Retains app later) (second : Retains later last) : Retains app last where
  listed := first.listed.trans second.listed
  evolves := first.evolves.trans second.evolves
  running := by
    intro id context found entry member
    rcases second.running id context found entry member with ⟨before, here, was⟩ | listed
    · rcases first.running id before here entry was with earlier | ⟨span, there, same⟩
      · exact .inl earlier
      · obtain ⟨kept, listed, context⟩ := second.context there
        exact .inr ⟨kept, listed, (congrArg Telemetry.Context.identity context).trans same⟩
    · exact .inr listed

theorem of_state {context : Zipkin.Context} {state : Zipkin.State}
    (found : app.contexts[id]? = some (.zipkin context))
    (retains : (app.zipkinState thread context).Retains state) :
    Retains app (app.commitZipkin thread id state) where
  listed := retains.listed
  evolves := retains.evolves
  running := by
    intro other later here entry member
    rw [contexts_commitZipkin, List.getElem?_set] at here
    split at here
    next same =>
      split at here
      · cases here
        rcases retains.running entry member with before | listed
        · exact .inl ⟨context, same ▸ found, before⟩
        · exact .inr listed
      · cases here
    next => exact .inl ⟨later, here, member⟩

end Retains

theorem mem_of_append {contexts : List TracingContext} {added context : TracingContext}
    (found : (contexts ++ [added])[id]? = some context) :
    contexts[id]? = some context ∨ context = added := by
  rw [List.getElem?_append] at found
  split at found
  · exact .inl found
  · exact .inr (List.mem_singleton.mp (List.mem_of_getElem? found))

theorem same_drawId (app : Application) (thread agent : Nat) :
    (app.drawId thread agent).1.zipkinSpans = app.zipkinSpans ∧
      (app.drawId thread agent).1.recorder = app.recorder := by
  unfold drawId
  split <;> exact ⟨rfl, rfl⟩

theorem retains_drawMoment (app : Application) (thread agent : Nat) :
    Retains app (app.drawMoment thread agent).1 := by
  have segment := same_drawId app thread agent
  have trace := same_drawId (app.drawId thread agent).1 thread agent
  exact .of_same (trace.1.trans segment.1) (trace.2.trans segment.2)
    (.of_contexts contexts_drawMoment)

theorem Retains.report (retains : Retains app later) (agent : Nat) (segment : Option Segment) :
    Retains app (later.report agent segment) := by
  refine retains.trans ?_
  unfold Application.report collect
  split
  · exact .refl later
  · split <;> exact .of_same rfl rfl (.of_contexts rfl)

theorem retains_commit (app : Application) (thread agent id : Nat) (before after : Native.Context) :
    Retains app (app.commit thread agent id before after) := by
  have drawn := retains_drawMoment app thread agent
  unfold commit
  dsimp only
  split
  · exact drawn.trans (.of_same rfl rfl (.of_set rfl))
  · exact .of_same rfl rfl (.of_set rfl)

variable (app)

theorem retains_createContext (thread agent : Nat) (scope : String) :
    Retains app (app.createContext thread agent scope) := by
  have drawn := retains_drawMoment app thread agent
  unfold createContext
  split
  · exact .refl app
  · refine drawn.trans (.of_same rfl rfl fun id context found => ?_)
    rcases mem_of_append found with before | new
    · exact before
    · cases new
  · refine ⟨List.prefix_refl _, .refl _, fun id context found entry member => ?_⟩
    rcases mem_of_append found with before | new
    · exact .inl ⟨context, before, member⟩
    · cases new
      cases member

theorem retains_createSpan (thread id : Nat) (role : Role) (name peer : String) :
    Retains app (app.createSpan thread id role name peer).1 := by
  unfold createSpan
  split
  · exact .refl app
  · exact retains_commit app thread _ id _ _
  next context found =>
    refine .of_state found ?_
    cases role with
    | entry => exact Zipkin.State.retains_startSpan _ _ _ _ _
    | inner => exact Zipkin.State.retains_startSpan _ _ _ _ _
    | exit => exact Zipkin.State.retains_startExit _ _ _ _

theorem retains_stopSpan (thread id : Nat) (span : SpanRef) :
    Retains app (app.stopSpan thread id span).1 := by
  unfold stopSpan
  split
  · exact .refl app
  · unfold stopNative
    split
    · exact .refl app
    · refine Retains.report ?_ _ _
      exact .of_same rfl rfl (.of_set rfl)
  next context found =>
    split
    · exact .refl app
    · exact .of_state found (Zipkin.State.retains_stopSpan _ _ _)

theorem retains_asyncStop (thread id : Nat) (span : SpanRef) :
    Retains app (app.asyncStop thread id span).1 := by
  unfold asyncStop
  split
  · exact .refl app
  · split
    · exact .refl app
    · refine Retains.report ?_ _ _
      exact .of_same rfl rfl (.of_set rfl)
  next context found =>
    split
    · exact .refl app
    · exact .of_state found (Zipkin.State.retains_finishSpan _ _ _)

theorem retains_extract (thread id : Nat) (carrier : Carrier) :
    Retains app (app.extract thread id carrier).1 := by
  unfold extract
  split
  · exact .refl app
  · exact (retains_commit app thread _ id _ _).trans (.of_same rfl rfl (.of_contexts rfl))
  next context found =>
    refine (Retains.of_state found ?_).trans (.of_same rfl rfl (.of_contexts rfl))
    exact .of_same rfl (.refl _) (List.Subset.refl _)

theorem retains_resume (thread id : Nat) (snapshot : Snapshot) :
    Retains app (app.resume thread id snapshot) := by
  unfold resume
  split
  · exact .refl app
  · exact (retains_commit app thread _ id _ _).trans (.of_same rfl rfl (.of_contexts rfl))
  next context found =>
    refine (Retains.of_state found ?_).trans (.of_same rfl rfl (.of_contexts rfl))
    exact .of_same rfl (.refl _) (List.Subset.refl _)

theorem retains_links (thread : Nat) : LinksSteps thread Retains where
  refl := .refl
  trans := .trans
  note _ _ := .of_same rfl rfl (.of_contexts rfl)
  bind _ _ := .of_same rfl rfl (.of_contexts rfl)
  createContext app := retains_createContext app thread
  createSpan app := retains_createSpan app thread
  stopSpan app := retains_stopSpan app thread
  extract app := retains_extract app thread
  resume app := retains_resume app thread

theorem retains_editNative (id : Nat) (key : Native.SpanKey) (edit : Native.Span → Native.Span) :
    Retains app (app.editNative id key edit) := by
  unfold editNative
  split
  · exact .of_same rfl rfl (.of_set rfl)
  all_goals exact .refl app

theorem retains_changeZipkin (index : Nat) (change : Telemetry.Change) :
    Retains app (app.changeZipkin index change) := by
  unfold changeZipkin
  split
  · exact .of_recorder rfl (Telemetry.Recorder.evolves_call _ _ _) (.of_contexts rfl)
  · exact .refl app

theorem retains_prepareAsync (span : SpanRef) : Retains app (app.prepareAsync span).1 := by
  unfold prepareAsync
  split
  · split
    · exact .refl app
    · split
      · split
        · exact .refl app
        · exact .of_same rfl rfl (.of_set rfl)
      all_goals exact .refl app
  next index =>
    -- The mark leaves the telemetry contexts alone.
    have same : (app.zipkinSpans.modify index ({ · with isAsync := true })).map (·.context) =
        app.zipkinSpans.map (·.context) := by
      refine List.ext_getElem? fun place => ?_
      simp only [List.getElem?_map, List.getElem?_modify]
      split <;> cases app.zipkinSpans[place]? <;> rfl
    exact ⟨same ▸ List.prefix_refl _, .refl _,
      fun _ context found _ member => .inl ⟨context, found, member⟩⟩

theorem retains_finishAsync (span : SpanRef) : Retains app (app.finishAsync span).1 := by
  unfold finishAsync
  split
  · split
    · split
      · exact .refl app
      · refine Retains.report ?_ _ _
        exact .of_same rfl rfl (.of_set rfl)
    all_goals exact .refl app
  · unfold finishZipkin
    dsimp only
    split
    · exact .of_recorder rfl (Telemetry.Recorder.evolves_call _ _ _) (.of_contexts rfl)
    · exact .refl app

theorem retains_after (event : Event) : Retains app (app.after event) := by
  cases event with
  | createContext thread agent scope => exact retains_createContext app thread agent scope
  | perform thread target command => exact (retains_links thread).perform app target command
  | annotate span remark =>
    cases span with
    | native id key => exact retains_editNative app id key _
    | zipkin index =>
      change Retains app (app.annotate (.zipkin index) remark).1
      unfold annotate
      dsimp only
      split
      · exact .refl app
      · exact (related_changes .refl .trans (fun app => retains_changeZipkin app index) _ app).trans
          (.of_same rfl rfl (.of_contexts rfl))
  | applyFlags span extension =>
    cases span with
    | native id key => exact retains_editNative app id key _
    | zipkin index =>
      change Retains app (app.applyFlags (.zipkin index) extension)
      unfold applyFlags
      dsimp only
      split
      · exact retains_changeZipkin app index _
      · exact .refl app
  | prepareAsync span => exact retains_prepareAsync app span
  | finishAsync span => exact retains_finishAsync app span
  | asyncStop thread id span => exact retains_asyncStop app thread id span
  | awaitCompletion id =>
    change Retains app (app.awaitCompletion id)
    unfold awaitCompletion
    split
    · exact .of_same rfl rfl (.of_set rfl)
    all_goals exact .refl app
  | adopt thread id started =>
    change Retains app (((app.adopt thread id started).map (·.1)).getD app)
    unfold adopt
    split
    next context found =>
      cases adopted : (app.zipkinState thread context).adopt started with
      | error => exact .refl app
      | ok registered =>
        obtain ⟨_, _, grown, _⟩ := Zipkin.State.register_eq_ok.mp adopted
        exact .of_state found (grown ▸ Zipkin.State.retains_adding _ _)
    all_goals exact .refl app
  | startDetached agent scope name parent =>
    change Retains app (((app.startDetached agent scope name parent).map (·.1)).getD app)
    unfold startDetached
    cases app.provider? agent with
    | none => exact .refl app
    | some provider =>
      exact .of_recorder rfl (Telemetry.Recorder.evolves_start _ _ _ _ _ _ _) (.of_contexts rfl)
  | shutDown agent =>
    change Retains app (((app.shutDown agent).map (·.1)).getD app)
    unfold shutDown
    cases app.provider? agent with
    | none => exact .refl app
    | some provider =>
      exact .of_recorder rfl (Telemetry.Recorder.evolves_shutDown _ _) (.of_contexts rfl)
  | addSelected config propagator provider =>
    change Retains app (app.addSelected config propagator provider)
    unfold addSelected
    dsimp only
    split
    · exact .of_same rfl rfl (.of_contexts rfl)
    · exact .of_recorder rfl (.of_grown (List.prefix_append _ _)) (.of_contexts rfl)
  | addZipkin config propagator provider =>
    exact .of_recorder rfl (.of_grown (List.prefix_append _ _)) (.of_contexts rfl)
  | clearReports agent =>
    change Retains app (app.clearReports agent)
    unfold clearReports
    split <;> exact .of_same rfl rfl (.of_contexts rfl)
  | _ => exact .of_same rfl rfl (.of_contexts rfl)

/-- Whatever happens to a process, its Zipkin spans and their providers stay. -/
theorem retains_foldl (events : List Event) : Retains app (events.foldl after app) := by
  induction events generalizing app with
  | nil => exact .refl app
  | cons event rest ih => exact (retains_after app event).trans (ih _)

/-- A span that runs in a Zipkin context is listed under its identity. -/
theorem Reachable.listed {app : Application} (reachable : app.Reachable)
    {context : Zipkin.Context} {entry : Telemetry.Identity × Nat}
    (found : app.contexts[id]? = some (.zipkin context)) (member : entry ∈ context.running) :
    ∃ span, app.zipkinSpans[entry.2]? = some span ∧ span.identity = entry.1 := by
  obtain ⟨clock, seed, stack, events, rfl⟩ := reachable
  rcases (retains_foldl _ events).running id context found entry member with ⟨_, none, _⟩ | listed
  · cases none
  · exact listed

end Application

end TraceAgent
