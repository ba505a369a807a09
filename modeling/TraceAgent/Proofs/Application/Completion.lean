import TraceAgent.Proofs.Application.Retention
import TraceAgent.Proofs.Application.ZipkinRun
import TraceAgent.Proofs.Native.Accounting

/-! The two ways to complete a span that outlives its stop.

A span can be completed itself, or its context can be told to count a completion
for it. On the Zipkin backend both end the span, and neither has any effect
afterwards. A native context that is told so only counts: the span runs on, and
may be completed and counted another time.
-/

set_option autoImplicit false

namespace TraceAgent

namespace Native.Context

variable {context after : Context} {moment : Moment} {key : SpanKey} {now : Int}

theorem Change.completed {paired : Bool} {report : Option Segment}
    (change : Change context moment paired after report)
    (completed : context.completion? key = some .completed) :
    after.completion? key = some .completed := by
  cases change with
  | stay => exact completed
  | create role name peer =>
    rw [completion?_createSpan]
    split
    · exact completed
    · refine (if_neg fun fresh => ?_).trans completed
      rw [fresh, completion?_fresh] at completed
      cases completed
  | @leave _ opened index rest current _ =>
    have before : { context with current := some opened } = context := by rw [← current]
    change (settle _).1.completion? key = _
    rw [completion?_settle, completion?_leave, before]
    exact completed
  | join => rwa [completion?_join]
  | edit other _ keeps => rwa [completion?_edit context other keeps]
  | prepare other ready =>
    refine (completion?_mark (·.awaiting) (fun _ => rfl) ready key).trans (if_neg ?_ |>.trans completed)
    rintro rfl
    cases ready.symm.trans completed
  | finish other awaited =>
    refine (congrFun (completion?_settle _) key).trans ?_
    refine (completion?_mark (·.completedAt moment.now) (fun _ => rfl) awaited key).trans
      (if_neg ?_ |>.trans completed)
    rintro rfl
    cases awaited.symm.trans completed
  | expect => exact completed
  | complete => exact (congrFun (completion?_settle _) key).trans completed

theorem completed_run (steps : List Step) (completed : context.completion? key = some .completed) :
    (context.run steps).completion? key = some .completed := by
  induction steps generalizing context with
  | nil => exact completed
  | cons step rest ih => exact ih ((perform_change context step.1 step.2).completed completed)

end Native.Context

namespace Application

variable {app later : Application} {thread id index : Nat} {span : SpanRef}

/-- A span of a context that was prepared to outlive its stop. A native span is marked when it is
completed, and this one is not. -/
inductive Awaits (app : Application) (id : Nat) : SpanRef → Prop where
  | native {agent : Nat} {context : Native.Context} {key : Native.SpanKey}
      (found : app.contexts[id]? = some (.native agent context))
      (awaited : context.completion? key = some .awaited) : Awaits app id (.native id key)
  | zipkin {context : Zipkin.Context} {index : Nat} {span : Zipkin.Span}
      (found : app.contexts[id]? = some (.zipkin context))
      (listed : app.zipkinSpans[index]? = some span) (async : span.isAsync) :
      Awaits app id (.zipkin index)

def zipkinHandle? (app : Application) (index : Nat) : Option Telemetry.Handle :=
  ((app.zipkinSpans[index]?).bind (·.context.span)).bind (·.handle)

/-- The span was started with its provider, and has not ended if it is recorded. -/
def StillRuns (app : Application) (index : Nat) : Prop :=
  ∀ handle, app.zipkinHandle? index = some handle →
    ∃ provider, app.recorder.providers[handle.provider]? = some provider ∧
      handle.number < provider.started ∧
      ∀ recording, provider.view.recorded handle.number = some recording → recording.ended = false

def outstanding? (app : Application) (id : Nat) : Option Nat :=
  match app.contexts[id]? with
  | some (.native _ context) => some context.outstanding
  | some (.zipkin _) | none => none

/-- Between two states a span ended at the reading of the clock. A recorded Zipkin span is exported
with it, unless the provider was shut down. -/
def EndsNow (app later : Application) : SpanRef → Prop
  | .native id key =>
      ∃ span, later.nativeSpan? id key = some span ∧ span.completion = .completed ∧
        span.finish = app.now
  | .zipkin index => ∀ handle, app.zipkinHandle? index = some handle →
      ∃ provider ended, app.recorder.providers[handle.provider]? = some provider ∧
        handle.number < provider.started ∧
        later.recorder.providers = app.recorder.providers.set handle.provider ended ∧
        ∀ recording, provider.view.recorded handle.number = some recording →
          recording.ended = false ∧
          ended.view.recorded handle.number = some { recording with ended := true } ∧
          ended.view.exports = if provider.view.isOpen then
              provider.view.exports ++ [⟨recording, app.clock⟩]
            else provider.view.exports

def EndsOnce (app : Application) : Prop :=
  ∀ provider ∈ app.recorder.providers, provider.EndsOnce

structure Alike (app later : Application) : Prop where
  rest : later = { app with threads := later.threads }
  thread : later.thread = app.thread

/-- A completion as it should be: the span ends now, one completion is counted, and whatever
happens next, completing the span again either way has no effect. -/
structure Completes (app later : Application) (id : Nat) (span : SpanRef) : Prop where
  ends : app.EndsNow later span
  counts : later.outstanding? id = (app.outstanding? id).map (· - 1)
  once : ∀ events : List Event,
    Alike (events.foldl after later) ((events.foldl after later).finishAsync span).1 ∧
      ∀ thread, Alike (events.foldl after later)
        ((events.foldl after later).asyncStop thread id span).1

/-- It does not matter in which of the two ways the span is completed. -/
structure Interchangeable (app : Application) (thread id : Nat) (span : SpanRef) : Prop where
  answer : (app.asyncStop thread id span).2 = (app.finishAsync span).2
  alike : Alike (app.finishAsync span).1 (app.asyncStop thread id span).1
  completes : Completes app (app.asyncStop thread id span).1 id span

/-- What the two ways do to a span of a native context. -/
structure CountsApart (app : Application) (thread id : Nat) (key : Native.SpanKey) : Prop where
  accepted : (app.asyncStop thread id (.native id key)).2 = .ok () ∧
    (app.finishAsync (.native id key)).2 = .ok ()
  runs_on : (app.asyncStop thread id (.native id key)).1.nativeSpan? id key = app.nativeSpan? id key
  ends : (app.finishAsync (.native id key)).1.nativeSpan? id key =
    (app.nativeSpan? id key).map (·.completedAt app.now)
  counts : (app.asyncStop thread id (.native id key)).1.outstanding? id =
      (app.outstanding? id).map (· - 1) ∧
    (app.finishAsync (.native id key)).1.outstanding? id = (app.outstanding? id).map (· - 1)
  finished_after_stop :
    ((app.asyncStop thread id (.native id key)).1.finishAsync (.native id key)).2 = .ok () ∧
    ((app.asyncStop thread id (.native id key)).1.finishAsync (.native id key)).1.outstanding? id =
      (app.outstanding? id).map (· - 2)
  stopped_after_finish :
    ((app.finishAsync (.native id key)).1.asyncStop thread id (.native id key)).2 = .ok () ∧
    ((app.finishAsync (.native id key)).1.asyncStop thread id (.native id key)).1.outstanding? id =
      (app.outstanding? id).map (· - 2)
  refused : ∀ events : List Event, ∃ error,
    (events.foldl after (app.finishAsync (.native id key)).1).finishAsync (.native id key) =
      (events.foldl after (app.finishAsync (.native id key)).1, .error error)

section Native

variable {agent : Nat} {context counted : Native.Context} {key : Native.SpanKey}
  {diagnostics : List Diagnostic}

def countNative (app : Application) (id agent : Nat) (context : Native.Context)
    (diagnostics : List Diagnostic) : Application :=
  ((app.setContext id (.native agent context.complete.1)).note diagnostics).report agent
    context.complete.2

theorem asyncStop_native (found : app.contexts[id]? = some (.native agent context)) :
    app.asyncStop thread id (.native id key) =
      (app.countNative id agent context (context.asyncStopDiagnostics (.own key)), .ok ()) := by
  have own : argument id (.native id key) = .own key := if_pos rfl
  unfold asyncStop
  rw [found, own]
  rfl

theorem finishAsync_native (found : app.contexts[id]? = some (.native agent context))
    (awaited : context.completion? key = some .awaited) :
    app.finishAsync (.native id key) =
      (app.countNative id agent (context.modifySpan key (·.completedAt app.now))
        (context.asyncStopDiagnostics (.own key)), .ok ()) := by
  have finishes := Native.Context.finishAsync_eq_ok.mpr
    ⟨awaited, Eq.refl (context.modifySpan key (·.completedAt app.now)).complete⟩
  unfold finishAsync
  dsimp only
  rw [found]
  dsimp only
  rw [finishes]
  rfl

theorem finishAsync_refused
    (refused : ∀ agent context, app.contexts[id]? = some (.native agent context) →
      context.completion? key ≠ some .awaited) :
    ∃ error, app.finishAsync (.native id key) = (app, .error error) := by
  unfold finishAsync
  dsimp only
  split
  next agent context found =>
    cases finishes : context.finishAsync app.now key with
    | error error => exact ⟨error, rfl⟩
    | ok =>
      exact absurd (Native.Context.finishAsync_eq_ok.mp finishes).1 (refused agent context found)
  · exact ⟨_, rfl⟩
  · exact ⟨_, rfl⟩

theorem contexts_countNative (within : id < app.contexts.length) :
    (app.countNative id agent counted diagnostics).contexts[id]? =
      some (.native agent counted.complete.1) := by
  unfold countNative
  rw [contexts_report, contexts_note]
  exact List.getElem?_set_self within

theorem outstanding?_countNative (within : id < app.contexts.length) :
    (app.countNative id agent counted diagnostics).outstanding? id =
      some (counted.outstanding - 1) := by
  unfold outstanding?
  rw [contexts_countNative within]
  exact congrArg some (Native.Context.outstanding_settle _)

theorem nativeSpan?_countNative (within : id < app.contexts.length) :
    (app.countNative id agent counted diagnostics).nativeSpan? id key = counted.span? key := by
  unfold nativeSpan?
  rw [contexts_countNative within]
  exact congrFun (Native.Context.span?_settle _) key

/-- Both ways count, and only one of them ends the span. -/
theorem countsApart (found : app.contexts[id]? = some (.native agent context))
    (awaited : context.completion? key = some .awaited) : app.CountsApart thread id key := by
  obtain ⟨within, _⟩ := List.getElem?_eq_some_iff.mp found
  have stops : app.asyncStop thread id (.native id key) = _ := asyncStop_native found
  have finishes := finishAsync_native found awaited
  have count : app.outstanding? id = some context.outstanding := by
    unfold outstanding?
    rw [found]
  have span : app.nativeSpan? id key = context.span? key := by
    unfold nativeSpan?
    rw [found]
  -- Counting leaves the span awaited, so that it can still be completed.
  have stopped := @contexts_countNative app id agent context
    (context.asyncStopDiagnostics (.own key)) within
  have still : context.complete.1.completion? key = some .awaited :=
    (congrFun (Native.Context.completion?_settle _) key).trans awaited
  have finished := @contexts_countNative app id agent
    (context.modifySpan key (·.completedAt app.now)) (context.asyncStopDiagnostics (.own key)) within
  have completed : (context.modifySpan key (·.completedAt app.now)).complete.1.completion? key =
      some .completed :=
    (congrFun (Native.Context.completion?_settle _) key).trans
      ((Native.Context.completion?_mark (·.completedAt app.now) (fun _ => rfl) awaited key).trans
        (if_pos rfl))
  refine ⟨⟨congrArg Prod.snd stops, congrArg Prod.snd finishes⟩, ?_, ?_, ⟨?_, ?_⟩, ⟨?_, ?_⟩,
    ⟨?_, ?_⟩, ?_⟩
  · rw [stops, nativeSpan?_countNative within, span]
  · rw [finishes, nativeSpan?_countNative within, span, Native.Context.span?_modifySpan, if_pos rfl]
  · rw [stops, outstanding?_countNative within, count]
    rfl
  · rw [finishes, outstanding?_countNative within, count, Native.Context.outstanding_modifySpan]
    rfl
  · rw [stops, finishAsync_native stopped still]
  · rw [stops, finishAsync_native stopped still,
      outstanding?_countNative (List.getElem?_eq_some_iff.mp stopped).1, count,
      Native.Context.outstanding_modifySpan]
    exact congrArg (some <| · - 1) (Native.Context.outstanding_settle _)
  · rw [finishes, asyncStop_native finished]
  · rw [finishes, asyncStop_native finished,
      outstanding?_countNative (List.getElem?_eq_some_iff.mp finished).1, count]
    refine congrArg (some <| · - 1) ((Native.Context.outstanding_settle _).trans ?_)
    exact congrArg (· - 1) (Native.Context.outstanding_modifySpan _)
  · intro events
    rw [finishes]
    refine finishAsync_refused fun owner later here awaits => ?_
    rcases (evolves_foldl _ events).native id owner later here with
      ⟨earlier, steps, there, rfl⟩ | ⟨beyond, _⟩
    · cases finished.symm.trans there
      cases (Native.Context.completed_run steps completed).symm.trans awaits
    · exact absurd (List.getElem?_eq_some_iff.mp finished).1 (Nat.not_lt_of_le beyond)

end Native

section Zipkin

variable {context : Zipkin.Context} {state : Zipkin.State}

theorem Alike.refl (app : Application) : Alike app app := ⟨rfl, rfl⟩

theorem alike_commitZipkin (found : app.contexts[id]? = some (.zipkin state.context))
    (scopes : state.scopes = (app.thread thread).scopes) :
    Alike { app with zipkinSpans := state.spans, recorder := state.recorder }
      (app.commitZipkin thread id state) where
  rest := by
    obtain ⟨within, here⟩ := List.getElem?_eq_some_iff.mp found
    have same : app.contexts.set id (.zipkin state.context) = app.contexts := by
      rw [← here, List.set_getElem_self within]
    unfold commitZipkin setContext setThread
    dsimp only
    rw [same]
  thread := by
    funext other
    by_cases same : other = thread
    · rw [same, thread_commitZipkin, scopes]
      rfl
    · exact thread_setThread_of_ne _ same

theorem finishZipkin_eq (app : Application) (thread index : Nat) (context : Zipkin.Context) :
    app.finishZipkin index =
      { app with
        zipkinSpans := ((app.zipkinState thread context).finishSpan app.clock index).spans
        recorder := ((app.zipkinState thread context).finishSpan app.clock index).recorder } := by
  have spans : (app.zipkinState thread context).spans = app.zipkinSpans := rfl
  unfold finishZipkin Zipkin.State.finishSpan
  rw [spans]
  cases (app.zipkinSpans[index]?).bind (·.context.span) <;> rfl

theorem asyncStop_zipkin (found : app.contexts[id]? = some (.zipkin context)) :
    Alike (app.finishZipkin index) (app.asyncStop thread id (.zipkin index)).1 ∧
      (app.asyncStop thread id (.zipkin index)).2 = .ok () := by
  have works : app.Works thread id (app.zipkinState thread context) := ⟨found, rfl⟩
  have kept : ((app.zipkinState thread context).finishSpan app.clock index).context = context ∧
      ((app.zipkinState thread context).finishSpan app.clock index).scopes =
        (app.thread thread).scopes := by
    unfold Zipkin.State.finishSpan
    split <;> exact ⟨rfl, rfl⟩
  rw [works.asyncStop, finishZipkin_eq app thread index context]
  exact ⟨alike_commitZipkin (by rw [kept.1]; exact found) kept.2, rfl⟩

/-- Nothing is left to end: the span was started with its provider, and has ended if it is
recorded. -/
def Spent (app : Application) (index : Nat) : Prop :=
  ∀ handle, app.zipkinHandle? index = some handle →
    ∃ provider, app.recorder.providers[handle.provider]? = some provider ∧ provider.EndsOnce ∧
      handle.number < provider.started ∧ provider.Spent handle.number

theorem zipkinHandle?_eq {span : Telemetry.Span}
    (listed : (app.zipkinSpans[index]?).bind (·.context.span) = some span) :
    app.zipkinHandle? index = span.handle := by
  unfold zipkinHandle?
  rw [listed, Option.bind_some]

theorem Spent.finishZipkin (spent : app.Spent index) : app.finishZipkin index = app := by
  unfold Application.finishZipkin
  split
  next telemetry listed =>
    have same : app.recorder.finish telemetry app.clock = app.recorder := by
      unfold Telemetry.Recorder.finish Telemetry.Recorder.call
      split
      next => rfl
      next handle known =>
        obtain ⟨provider, found, once, started, done⟩ :=
          spent handle ((zipkinHandle?_eq listed).trans known)
        have again := once.again [] handle.number app.clock started done
        have same : (app.recorder.providers.modify handle.provider
            (·.after (.finish handle.number app.clock))) = app.recorder.providers := by
          obtain ⟨within, here⟩ := List.getElem?_eq_some_iff.mp found
          rw [modify_eq_set found]
          exact (congrArg (app.recorder.providers.set handle.provider) (again.trans here.symm)).trans
            (List.set_getElem_self within)
        exact congrArg Telemetry.Recorder.mk same
    rw [same]
  next => rfl

theorem Spent.asyncStop (spent : app.Spent index) (thread id : Nat) :
    Alike app (app.asyncStop thread id (.zipkin index)).1 := by
  match found : app.contexts[id]? with
  | some (.zipkin context) =>
    have told := (@asyncStop_zipkin app thread id index context found).1
    rwa [spent.finishZipkin] at told
  | some (.native agent context) =>
    unfold Application.asyncStop
    rw [found]
    exact .refl app
  | none =>
    unfold Application.asyncStop
    rw [found]
    exact .refl app

theorem zipkinHandle?_retains {span : Zipkin.Span} (retains : Retains app later)
    (listed : app.zipkinSpans[index]? = some span) :
    later.zipkinHandle? index = app.zipkinHandle? index := by
  obtain ⟨kept, there, same⟩ := retains.context listed
  unfold zipkinHandle?
  rw [listed, there, Option.bind_some, Option.bind_some, same]

theorem Spent.lasts {span : Zipkin.Span} (spent : app.Spent index) (retains : Retains app later)
    (listed : app.zipkinSpans[index]? = some span) : later.Spent index := by
  intro handle known
  rw [zipkinHandle?_retains retains listed] at known
  obtain ⟨provider, found, once, started, done⟩ := spent handle known
  obtain ⟨calls, there⟩ := retains.evolves handle.provider provider found
  exact ⟨_, there, once.run calls, Nat.lt_of_lt_of_le started (provider.started_run calls),
    once.spent_run started done calls⟩

theorem endsNow_finishZipkin (once : app.EndsOnce) (runs : app.StillRuns index) :
    app.EndsNow (app.finishZipkin index) (.zipkin index) := by
  intro handle known
  obtain ⟨provider, found, started, running⟩ := runs handle known
  obtain ⟨telemetry, listed, here⟩ := Option.bind_eq_some_iff.mp known
  have law := once provider (List.mem_of_getElem? found)
  refine ⟨provider, provider.after (.finish handle.number app.clock), found, started, ?_,
    fun recording recorded => ⟨running recording recorded,
      law.ends [] handle.number app.clock recording recorded (running recording recorded)⟩⟩
  unfold finishZipkin
  rw [listed]
  dsimp only
  unfold Telemetry.Recorder.finish Telemetry.Recorder.call
  rw [here]
  exact modify_eq_set found _

theorem spent_finishZipkin (once : app.EndsOnce) (runs : app.StillRuns index) :
    (app.finishZipkin index).Spent index := by
  intro handle known
  unfold finishZipkin at known ⊢
  cases listed : (app.zipkinSpans[index]?).bind (·.context.span) with
  | none =>
    rw [listed] at known
    unfold zipkinHandle? at known
    dsimp only at known
    rw [listed] at known
    cases known
  | some telemetry =>
    rw [listed] at known
    have here : telemetry.handle = some handle := (zipkinHandle?_eq listed).symm.trans known
    obtain ⟨provider, found, started, _⟩ := runs handle known
    have law := once provider (List.mem_of_getElem? found)
    dsimp only
    unfold Telemetry.Recorder.finish Telemetry.Recorder.call
    rw [here]
    refine ⟨_, ?_, law.run [_], Nat.lt_of_lt_of_le started (Nat.le_add_right _ _),
      law.spent_finish started app.clock⟩
    dsimp only
    rw [List.getElem?_modify_eq, found]
    rfl

/-- On a Zipkin context both ways end the span, and nothing is left to complete. -/
theorem interchangeable_zipkin {span : Zipkin.Span} (once : app.EndsOnce)
    (found : app.contexts[id]? = some (.zipkin context))
    (listed : app.zipkinSpans[index]? = some span) (runs : app.StillRuns index) :
    app.Interchangeable thread id (.zipkin index) := by
  obtain ⟨alike, answer⟩ := @asyncStop_zipkin app thread id index context found
  have retains := retains_asyncStop app thread id (.zipkin index)
  -- The threads are all that the two ways may leave in different orders.
  have ends : app.EndsNow (app.asyncStop thread id (.zipkin index)).1 (.zipkin index) := by
    rw [alike.rest]
    exact endsNow_finishZipkin once runs
  have spent : (app.asyncStop thread id (.zipkin index)).1.Spent index := by
    rw [alike.rest]
    exact spent_finishZipkin once runs
  obtain ⟨kept, there, _⟩ := retains.context listed
  refine ⟨answer, alike, ends, ?_, fun events => ?_⟩
  · have contexts : (app.asyncStop thread id (.zipkin index)).1.contexts = app.contexts := by
      rw [alike.rest]
      unfold finishZipkin
      split <;> rfl
    unfold outstanding?
    rw [contexts, found]
    rfl
  · have last := spent.lasts (retains_foldl _ events) there
    refine ⟨?_, fun thread => last.asyncStop thread id⟩
    change Alike _ (Application.finishZipkin _ index)
    rw [last.finishZipkin]
    exact .refl _

end Zipkin

/-- Whether a span is completed itself or counted by its context does not matter to a Zipkin span
that still runs, which is exported with the reading of the clock and cannot be completed again. A
native context that counts a completion leaves the span running, so the span is completed and
counted a second time, and one that was completed can still be counted. -/
theorem interchangeable_iff (once : ∀ index, span = .zipkin index → app.EndsOnce)
    (awaits : app.Awaits id span) :
    (app.Interchangeable thread id span ↔
      ∃ index, span = .zipkin index ∧ app.StillRuns index) ∧
    ∀ key, span = .native id key → app.CountsApart thread id key := by
  cases awaits with
  | @native agent context key found awaited =>
    have apart := @countsApart app thread id agent context key found awaited
    refine ⟨⟨fun same => ?_, fun ⟨_, other, _⟩ => nomatch other⟩, ?_⟩
    · -- The span would be awaited and completed at once.
      have spans : (app.asyncStop thread id (.native id key)).1.nativeSpan? id key =
          (app.finishAsync (.native id key)).1.nativeSpan? id key := by
        rw [same.alike.rest]
        rfl
      rw [apart.runs_on, apart.ends] at spans
      have here : app.nativeSpan? id key = context.span? key := by
        unfold nativeSpan?
        rw [found]
      obtain ⟨span, listed, mark⟩ := Option.map_eq_some_iff.mp awaited
      rw [here, listed] at spans
      have marks := congrArg Native.Span.completion (Option.some.inj spans)
      cases mark.symm.trans marks
    · rintro _ ⟨⟩
      exact apart
  | @zipkin context index span found listed async =>
    refine ⟨⟨fun same => ⟨index, rfl, fun handle known => ?_⟩, ?_⟩, fun _ other => nomatch other⟩
    · obtain ⟨provider, _, here, started, _, ends⟩ := same.completes.ends handle known
      exact ⟨provider, here, started, fun recording recorded => (ends recording recorded).1⟩
    · rintro ⟨_, ⟨⟩, runs⟩
      exact interchangeable_zipkin (once index rfl) found listed runs

def awaitedWork (agent : Event) (work : SpanRef) : Application :=
  [agent, .createContext 0 0 "direct", .hold 0,
    .perform 0 (.context 0) (.create .inner "work" "" none), .prepareAsync work,
    .perform 0 (.context 0) (.stop (some work)), .setClock 1000].foldl after (.begin 0 0)

def awaitedNative : Application :=
  awaitedWork (.addNative { service := "service", instanceName := "instance" } (.counting 1)
    (.memory [])) (.native 0 ⟨0, 0⟩)

def awaitedZipkin : Application :=
  awaitedWork (.addZipkin { service := "service", instanceName := "instance" }
    (Telemetry.B3.propagator .single) (.counting .parentBased 1 1 1)) (.zipkin 0)

theorem awaits_awaitedNative : awaitedNative.Awaits 0 (.native 0 ⟨0, 0⟩) :=
  .native rfl (by decide +kernel)

theorem awaits_awaitedZipkin : awaitedZipkin.Awaits 0 (.zipkin 0) := .zipkin rfl rfl rfl

theorem stillRuns_awaitedZipkin : awaitedZipkin.StillRuns 0 := by
  intro handle known
  have first : awaitedZipkin.zipkinHandle? 0 = some ⟨0, 0⟩ := by decide +kernel
  cases first.symm.trans known
  refine ⟨_, rfl, by decide +kernel, ?_⟩
  rintro _ ⟨⟩
  rfl

theorem endsOnce_awaitedZipkin : awaitedZipkin.EndsOnce := by
  intro provider member
  rw [List.mem_singleton.mp member]
  exact (Telemetry.Sdk.endsOnce _).run [_]

theorem awaited_completions :
    awaitedZipkin.Interchangeable 0 0 (.zipkin 0) ∧ awaitedNative.CountsApart 0 0 ⟨0, 0⟩ :=
  ⟨(interchangeable_iff (fun _ _ => endsOnce_awaitedZipkin) awaits_awaitedZipkin).1.mpr
      ⟨0, rfl, stillRuns_awaitedZipkin⟩,
    (interchangeable_iff (by exact fun _ other => nomatch other) awaits_awaitedNative).2 ⟨0, 0⟩
      rfl⟩

def reportedEnds (app : Application) : List (List Int) :=
  (app.reportedSegments 0).map fun segment => segment.spans.map (·.finish)

/-- A native span that is counted by its context is reported without the time at which it ended. -/
theorem counted_work_never_ends :
    awaitedNative.Reachable ∧ awaitedNative.Awaits 0 (.native 0 ⟨0, 0⟩) ∧
      (awaitedNative.asyncStop 0 0 (.native 0 ⟨0, 0⟩)).1.reportedEnds = [[0]] ∧
      (awaitedNative.finishAsync (.native 0 ⟨0, 0⟩)).1.reportedEnds = [[awaitedNative.now]] ∧
      ¬ awaitedNative.Interchangeable 0 0 (.native 0 ⟨0, 0⟩) := by
  refine ⟨⟨0, 0, .holding [], _, rfl⟩, awaits_awaitedNative, by decide +kernel, by decide +kernel,
    fun same => ?_⟩
  have ends := congrArg reportedEnds same.alike.rest
  revert ends
  decide +kernel

end Application

end TraceAgent
