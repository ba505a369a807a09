import TraceAgent.Proofs.Application.Evolution

/-! The log of a process is written and never read.

What stood in the log before makes no difference to any operation: not to its
answer, not to the process that it leaves, and not to what it writes behind. So
nobody who calls the process can tell whether something more was logged.
-/

set_option autoImplicit false

namespace TraceAgent

open Propagation
open Segment (Role Remark)

namespace Application

/-- A process whose log held something before all that is in it. -/
def recalling (app : Application) (earlier : List Diagnostic) : Application :=
  { app with log := earlier ++ app.log }

end Application

def Outcome.recalling (outcome : Outcome) (earlier : List Diagnostic) : Outcome :=
  { outcome with app := outcome.app.recalling earlier }

namespace Application

variable (app : Application) (earlier : List Diagnostic) (thread agent id : Nat)

section Readers

@[simp] theorem recalling_contexts : (app.recalling earlier).contexts = app.contexts := rfl
@[simp] theorem recalling_agents : (app.recalling earlier).agents = app.agents := rfl
@[simp] theorem recalling_zipkinSpans : (app.recalling earlier).zipkinSpans = app.zipkinSpans := rfl
@[simp] theorem recalling_clock : (app.recalling earlier).clock = app.clock := rfl
@[simp] theorem recalling_now : (app.recalling earlier).now = app.now := rfl
@[simp] theorem recalling_bound : (app.recalling earlier).bound thread = app.bound thread := rfl
@[simp] theorem recalling_tracer? : (app.recalling earlier).tracer? agent = app.tracer? agent := rfl

@[simp] theorem recalling_isAlive : (app.recalling earlier).isAlive id = app.isAlive id := rfl

@[simp] theorem recalling_zipkinState (context : Zipkin.Context) :
    (app.recalling earlier).zipkinState thread context = app.zipkinState thread context := rfl

end Readers

@[simp] theorem recalling_setContext (context : TracingContext) :
    (app.recalling earlier).setContext id context = (app.setContext id context).recalling earlier :=
  rfl

@[simp] theorem recalling_bind (bound : Option Nat) :
    (app.recalling earlier).bind thread bound = (app.bind thread bound).recalling earlier := rfl

@[simp] theorem recalling_setTracer (tracer : Tracer) :
    (app.recalling earlier).setTracer agent tracer = (app.setTracer agent tracer).recalling earlier :=
  rfl

@[simp] theorem recalling_commitZipkin (state : Zipkin.State) :
    (app.recalling earlier).commitZipkin thread id state =
      (app.commitZipkin thread id state).recalling earlier := rfl

@[simp] theorem recalling_note (diagnostics : List Diagnostic) :
    (app.recalling earlier).note diagnostics = (app.note diagnostics).recalling earlier := by
  simp [note, recalling]

@[simp] theorem recalling_drawId :
    (app.recalling earlier).drawId thread agent =
      ((app.drawId thread agent).1.recalling earlier, (app.drawId thread agent).2) := by
  unfold drawId
  simp only [recalling_tracer?]
  split <;> rfl

@[simp] theorem recalling_drawMoment :
    (app.recalling earlier).drawMoment thread agent =
      ((app.drawMoment thread agent).1.recalling earlier, (app.drawMoment thread agent).2) := by
  simp [drawMoment]

@[simp] theorem recalling_moment :
    (app.recalling earlier).moment thread agent = app.moment thread agent := by
  simp [moment]

@[simp] theorem recalling_commit (before after : Native.Context) :
    (app.recalling earlier).commit thread agent id before after =
      (app.commit thread agent id before after).recalling earlier := by
  unfold commit
  split <;> simp [*]

@[simp] theorem recalling_report (segment : Option Segment) :
    (app.recalling earlier).report agent segment =
      (app.report agent segment).recalling earlier := by
  cases segment with
  | none => rfl
  | some segment =>
    simp only [report, collect, recalling_note, recalling_tracer?]
    split <;> simp

@[simp] theorem recalling_createContext (scope : String) :
    (app.recalling earlier).createContext thread agent scope =
      (app.createContext thread agent scope).recalling earlier := by
  unfold createContext
  simp only [recalling_agents, recalling_drawMoment]
  split <;> simp [recalling]

@[simp] theorem recalling_createSpan (role : Role) (name peer : String) :
    (app.recalling earlier).createSpan thread id role name peer =
      ((app.createSpan thread id role name peer).1.recalling earlier,
        (app.createSpan thread id role name peer).2) := by
  unfold createSpan
  simp only [recalling_contexts]
  split
  next => rfl
  next => simp [createNative]
  next => cases role <;> rfl

@[simp] theorem recalling_activeSpan :
    (app.recalling earlier).activeSpan thread id = app.activeSpan thread id := rfl

@[simp] theorem recalling_stopSpan (span : SpanRef) :
    (app.recalling earlier).stopSpan thread id span =
      ((app.stopSpan thread id span).1.recalling earlier, (app.stopSpan thread id span).2) := by
  unfold stopSpan
  simp only [recalling_contexts]
  split
  next => rfl
  next =>
    simp only [stopNative, recalling_now]
    split <;> simp
  next => split <;> rfl

@[simp] theorem recalling_asyncStop (span : SpanRef) :
    (app.recalling earlier).asyncStop thread id span =
      ((app.asyncStop thread id span).1.recalling earlier, (app.asyncStop thread id span).2) := by
  unfold asyncStop
  simp only [recalling_contexts]
  split
  next => rfl
  next => split <;> simp
  next => split <;> rfl

@[simp] theorem recalling_extract (carrier : Carrier) :
    (app.recalling earlier).extract thread id carrier =
      ((app.extract thread id carrier).1.recalling earlier, (app.extract thread id carrier).2) := by
  unfold extract
  simp only [recalling_contexts]
  split <;> simp

@[simp] theorem recalling_resume (snapshot : Snapshot) :
    (app.recalling earlier).resume thread id snapshot =
      (app.resume thread id snapshot).recalling earlier := by
  unfold resume
  simp only [recalling_contexts]
  split <;> simp

section Bound

variable (carrier : Carrier) (snapshot : Snapshot) (role : Role) (name peer : String)

@[simp] theorem recalling_obtain :
    (app.recalling earlier).obtain thread agent =
      { app.obtain thread agent with app := (app.obtain thread agent).app.recalling earlier } := by
  unfold obtain
  simp only [recalling_bound]
  split <;> simp

@[simp] theorem recalling_releaseUnused (created : Bool) :
    (app.recalling earlier).releaseUnused thread id created =
      (app.releaseUnused thread id created).recalling earlier := by
  unfold releaseUnused
  simp only [recalling_activeSpan]
  split
  next => split <;> simp
  next => rfl

@[simp] theorem recalling_createOrRelease (obtained : Obtained) :
    createOrRelease { obtained with app := obtained.app.recalling earlier } thread role name peer =
      ((createOrRelease obtained thread role name peer).1.recalling earlier,
        (createOrRelease obtained thread role name peer).2) := by
  unfold createOrRelease
  simp only [recalling_createSpan]
  generalize obtained.app.createSpan thread obtained.id role name peer = created
  obtain ⟨created, outcome⟩ := created
  cases outcome <;> simp

@[simp] theorem recalling_enterEntry (received : Option Carrier) :
    (app.recalling earlier).enterEntry thread agent name received =
      ((app.enterEntry thread agent name received).1.recalling earlier,
        (app.enterEntry thread agent name received).2) := by
  unfold enterEntry
  simp only [recalling_obtain]
  cases received with
  | none => simp
  | some carrier =>
    simp only [recalling_extract]
    have created := recalling_createOrRelease earlier thread .entry (cutName name) ""
      { app.obtain thread agent with
        app := ((app.obtain thread agent).app.extract thread (app.obtain thread agent).id carrier).1 }
    simp [created]

@[simp] theorem recalling_enterInner :
    (app.recalling earlier).enterInner thread agent name =
      ((app.enterInner thread agent name).1.recalling earlier,
        (app.enterInner thread agent name).2) := by
  simp [enterInner]

@[simp] theorem recalling_finishSpan (span : SpanRef) :
    (app.recalling earlier).finishSpan thread id span =
      ((app.finishSpan thread id span).1.recalling earlier,
        (app.finishSpan thread id span).2) := by
  unfold finishSpan
  simp only [recalling_stopSpan]
  generalize app.stopSpan thread id span = stopped
  obtain ⟨stopped, outcome⟩ := stopped
  match outcome with
  | .ok true => rfl
  | .ok false => rfl
  | .error _ => rfl

@[simp] theorem recalling_inject :
    (app.recalling earlier).inject thread id carrier = app.inject thread id carrier := rfl

@[simp] theorem recalling_enterExit (outgoing : Option Carrier) :
    (app.recalling earlier).enterExit thread agent name peer outgoing =
      ((app.enterExit thread agent name peer outgoing).1.recalling earlier,
        (app.enterExit thread agent name peer outgoing).2) := by
  unfold enterExit
  simp only [recalling_obtain, recalling_createOrRelease]
  generalize createOrRelease (app.obtain thread agent) thread .exit (cutName name) peer = created
  obtain ⟨created, outcome⟩ := created
  match outcome, outgoing with
  | .error _, _ => rfl
  | .ok _, none => rfl
  | .ok span, some carrier =>
    simp only [recalling_inject]
    split <;> simp

@[simp] theorem recalling_enter (carried : Option Carrier) :
    (app.recalling earlier).enter thread agent role name peer carried =
      ((app.enter thread agent role name peer carried).1.recalling earlier,
        (app.enter thread agent role name peer carried).2) := by
  cases role <;> simp [enter]

@[simp] theorem recalling_running :
    (app.recalling earlier).running thread = app.running thread := rfl

@[simp] theorem recalling_extractBound :
    (app.recalling earlier).extractBound thread carrier =
      ((app.extractBound thread carrier).1.recalling earlier,
        (app.extractBound thread carrier).2) := by
  unfold extractBound
  simp only [recalling_running]
  split <;> simp

@[simp] theorem recalling_isFromCurrent :
    (app.recalling earlier).isFromCurrent thread snapshot = app.isFromCurrent thread snapshot := rfl

@[simp] theorem recalling_resumeBound :
    (app.recalling earlier).resumeBound thread agent snapshot =
      (app.resumeBound thread agent snapshot).recalling earlier := by
  by_cases current : app.isFromCurrent thread snapshot <;> simp [resumeBound, current]

@[simp] theorem recalling_stopBound (span : SpanRef) :
    (app.recalling earlier).stopBound thread span =
      ((app.stopBound thread span).1.recalling earlier, (app.stopBound thread span).2) := by
  unfold stopBound
  simp only [recalling_running]
  split <;> simp

@[simp] theorem recalling_stopActive :
    (app.recalling earlier).stopActive thread =
      ((app.stopActive thread).1.recalling earlier, (app.stopActive thread).2) := by
  unfold stopActive
  simp only [recalling_running, recalling_activeSpan]
  split
  next => rfl
  next => split <;> simp

@[simp] theorem recalling_stopIn (span : Option SpanRef) :
    (app.recalling earlier).stopIn thread id span =
      ((app.stopIn thread id span).1.recalling earlier, (app.stopIn thread id span).2) := by
  unfold stopIn
  simp only [recalling_activeSpan]
  split
  next => simp
  next => split <;> simp

end Bound

@[simp] theorem recalling_performIn (command : Command) :
    (app.recalling earlier).performIn thread id command =
      (app.performIn thread id command).recalling earlier := by
  cases command with
  | create role name peer carrier => simp [performIn, Outcome.recalling]
  | stop span => simp [performIn, Outcome.recalling]
  | extract carrier => simp [performIn, Outcome.recalling]
  | resume snapshot => simp [performIn, Outcome.recalling]
  | inject carrier =>
    simp only [performIn, recalling_inject]
    split <;> rfl
  | active => rfl
  | capture => rfl
  | traceId => rfl
  | correlation => rfl

@[simp] theorem recalling_performBound (command : Command) :
    (app.recalling earlier).performBound thread agent command =
      (app.performBound thread agent command).recalling earlier := by
  cases command with
  | create role name peer carrier => simp [performBound, Outcome.recalling]
  | stop span => cases span <;> simp [performBound, Outcome.recalling]
  | extract carrier => simp [performBound, Outcome.recalling]
  | resume snapshot => simp [performBound, Outcome.recalling]
  | inject carrier =>
    have same : (app.recalling earlier).injectBound thread carrier = app.injectBound thread carrier :=
      rfl
    simp only [performBound, same]
    split <;> rfl
  | active => rfl
  | capture => rfl
  | traceId => rfl
  | correlation => rfl

@[simp] theorem recalling_perform (target : Target) (command : Command) :
    (app.recalling earlier).perform thread target command =
      (app.perform thread target command).recalling earlier := by
  cases target <;> simp [perform]

section Spans

variable (span : SpanRef)

@[simp] theorem recalling_editNative (key : Native.SpanKey) (edit : Native.Span → Native.Span) :
    (app.recalling earlier).editNative id key edit =
      (app.editNative id key edit).recalling earlier := by
  unfold editNative
  simp only [recalling_contexts]
  split <;> simp

@[simp] theorem recalling_changeZipkin (index : Nat) (change : Telemetry.Change) :
    (app.recalling earlier).changeZipkin index change =
      (app.changeZipkin index change).recalling earlier := by
  unfold changeZipkin
  simp only [recalling_zipkinSpans]
  split <;> rfl

@[simp] theorem recalling_changes (index : Nat) (changes : List Telemetry.Change) :
    changes.foldl (·.changeZipkin index ·) (app.recalling earlier) =
      (changes.foldl (·.changeZipkin index ·) app).recalling earlier := by
  induction changes generalizing app with
  | nil => rfl
  | cons change rest ih => simp [ih]

@[simp] theorem recalling_annotate (remark : Remark) :
    (app.recalling earlier).annotate span remark =
      ((app.annotate span remark).1.recalling earlier, (app.annotate span remark).2) := by
  cases span with
  | native id key => simp [annotate]
  | zipkin index =>
    unfold annotate
    dsimp only
    split <;> simp

@[simp] theorem recalling_applyFlags (extension : Extension) :
    (app.recalling earlier).applyFlags span extension =
      (app.applyFlags span extension).recalling earlier := by
  cases span with
  | native id key => simp [applyFlags]
  | zipkin index =>
    simp only [applyFlags, recalling_now]
    split <;> simp

@[simp] theorem recalling_prepareAsync :
    (app.recalling earlier).prepareAsync span =
      ((app.prepareAsync span).1.recalling earlier, (app.prepareAsync span).2) := by
  cases span with
  | native id key =>
    by_cases alive : app.isAlive id
    · simp only [prepareAsync, recalling_isAlive, recalling_contexts, alive, Bool.not_true,
        Bool.false_eq_true, if_false]
      split
      next => split <;> rfl
      next => rfl
      next => rfl
    · simp [prepareAsync, alive]
  | zipkin index => rfl

@[simp] theorem recalling_finishZipkin (index : Nat) :
    (app.recalling earlier).finishZipkin index = (app.finishZipkin index).recalling earlier := by
  unfold finishZipkin
  simp only [recalling_zipkinSpans]
  split <;> rfl

@[simp] theorem recalling_finishAsync :
    (app.recalling earlier).finishAsync span =
      ((app.finishAsync span).1.recalling earlier, (app.finishAsync span).2) := by
  cases span with
  | native id key =>
    simp only [finishAsync, recalling_contexts, recalling_now]
    split
    next => split <;> simp
    next => rfl
    next => rfl
  | zipkin index => simp [finishAsync]

end Spans

@[simp] theorem recalling_awaitCompletion :
    (app.recalling earlier).awaitCompletion id = (app.awaitCompletion id).recalling earlier := by
  unfold awaitCompletion
  simp only [recalling_contexts]
  split <;> simp

@[simp] theorem recalling_adopt (started : Telemetry.Context) :
    (app.recalling earlier).adopt thread id started =
      (app.adopt thread id started).map fun adopted => (adopted.1.recalling earlier, adopted.2) := by
  unfold adopt
  simp only [recalling_contexts]
  split
  next =>
    simp only [recalling_zipkinState]
    split <;> rfl
  next => rfl
  next => rfl

@[simp] theorem recalling_startDetached (scope name : String) (parent : Telemetry.Context) :
    (app.recalling earlier).startDetached agent scope name parent =
      (app.startDetached agent scope name parent).map fun started =>
        (started.1.recalling earlier, started.2) := by
  unfold startDetached
  rw [Option.map_map]
  rfl

@[simp] theorem recalling_shutDown :
    (app.recalling earlier).shutDown agent =
      (app.shutDown agent).map fun shut => (shut.1.recalling earlier, shut.2) := by
  unfold shutDown
  rw [Option.map_map]
  rfl

@[simp] theorem recalling_clearReports :
    (app.recalling earlier).clearReports agent = (app.clearReports agent).recalling earlier := by
  unfold clearReports
  simp only [recalling_tracer?]
  split <;> simp

@[simp] theorem recalling_addSelected (config : AgentConfig) (propagator : Telemetry.Propagator)
    (provider : Telemetry.Provider) :
    (app.recalling earlier).addSelected config propagator provider =
      (app.addSelected config propagator provider).recalling earlier := by
  unfold addSelected
  simp only [recalling_note]
  split <;> rfl

inductive Reply where
  | done
  | outcome (carrier : Option Carrier) (result : Except TraceError Answer)
  | acted (result : Except TraceError Unit)
  | adopted (result : Option (Except TraceError SpanRef))
  | started (context : Option Telemetry.Context)
  | shut (first : Option Bool)

def reply (app : Application) : Event → Reply
  | .perform thread target command =>
      .outcome (app.perform thread target command).carrier (app.perform thread target command).result
  | .annotate span remark => .acted (app.annotate span remark).2
  | .prepareAsync span => .acted (app.prepareAsync span).2
  | .finishAsync span => .acted (app.finishAsync span).2
  | .asyncStop thread id span => .acted (app.asyncStop thread id span).2
  | .adopt thread id started => .adopted ((app.adopt thread id started).map (·.2))
  | .startDetached agent scope name parent =>
      .started ((app.startDetached agent scope name parent).map (·.2))
  | .shutDown agent => .shut ((app.shutDown agent).map (·.2))
  | .addNative .. | .addZipkin .. | .addSelected .. | .setClock .. | .createContext ..
  | .applyFlags .. | .awaitCompletion .. | .clearReports .. | .hold .. | .release ..
  | .endThread .. | .note .. => .done

/-- No event depends on the log. -/
@[simp] theorem recalling_after (event : Event) :
    (app.recalling earlier).after event = (app.after event).recalling earlier := by
  cases event with
  | addSelected config propagator provider => simp [after]
  | createContext thread agent scope => simp [after]
  | perform thread target command => simp [after, Outcome.recalling]
  | annotate span remark => simp [after]
  | applyFlags span extension => simp [after]
  | prepareAsync span => simp [after]
  | finishAsync span => simp [after]
  | asyncStop thread id span => simp [after]
  | awaitCompletion id => simp [after]
  | adopt thread id started =>
    simp only [after, recalling_adopt]
    cases app.adopt thread id started <;> rfl
  | startDetached agent scope name parent =>
    simp only [after, recalling_startDetached]
    cases app.startDetached agent scope name parent <;> rfl
  | shutDown agent =>
    simp only [after, recalling_shutDown]
    cases app.shutDown agent <;> rfl
  | clearReports agent => simp [after]
  | note diagnostics => simp [after]
  | addNative config ids reporter => rfl
  | addZipkin config propagator provider => rfl
  | setClock clock => rfl
  | hold id => rfl
  | release id => rfl
  | endThread thread => rfl

theorem recalling_foldl (events : List Event) :
    events.foldl after (app.recalling earlier) = (events.foldl after app).recalling earlier := by
  induction events generalizing app with
  | nil => rfl
  | cons event rest ih => simp [ih]

@[simp] theorem recalling_reply (event : Event) :
    (app.recalling earlier).reply event = app.reply event := by
  cases event <;> simp [reply, Outcome.recalling, Function.comp_def]

/-- What is to be seen of two processes is the same: the answer to whatever comes next, whether a
thread is traced and under which trace id, the spans and contexts, new carriers, and what the
collectors have received. -/
structure ShowsAlike (app other : Application) : Prop where
  reply : ∀ event, other.reply event = app.reply event
  active : ∀ thread, other.isActive thread = app.isActive thread
  traceId : ∀ thread, other.boundTraceId thread = app.boundTraceId thread
  views : ∀ span, other.view? span = app.view? span
  running : ∀ id, other.runningCount? id = app.runningCount? id
  descriptions : ∀ id, other.describe id = app.describe id
  carriers : ∀ agent, other.newCarrier agent = app.newCarrier agent
  segments : ∀ agent, other.reportedSegments agent = app.reportedSegments agent
  exports : ∀ agent, other.exportedSpans agent = app.exportedSpans agent

/-- No caller can ever tell one process from the other: they show the same whatever happens next, and
what they write to their logs meanwhile is the same too. -/
structure Indistinguishable (app other : Application) : Prop where
  shows : ∀ events : List Event, ShowsAlike (events.foldl after app) (events.foldl after other)
  logs : ∀ events : List Event, ∃ written, (events.foldl after app).log = app.log ++ written ∧
    (events.foldl after other).log = other.log ++ written

def silenced (app : Application) : Application := { app with log := [] }

theorem recalling_silenced : app.silenced.recalling app.log = app := by
  simp [recalling, silenced]

theorem recalling_silenced_note (diagnostics : List Diagnostic) :
    app.silenced.recalling (app.log ++ diagnostics) = app.note diagnostics := by
  simp [recalling, silenced, note]

theorem log_foldl (events : List Event) : ∃ written, ∀ earlier,
    (events.foldl after (app.recalling earlier)).log = earlier ++ app.log ++ written := by
  refine ⟨(events.foldl after app.silenced).log, fun earlier => ?_⟩
  have same : app.recalling earlier = app.silenced.recalling (earlier ++ app.log) := by
    simp [recalling, silenced]
  rw [same, recalling_foldl]
  rfl

theorem showsAlike_recalling (first second : List Diagnostic) :
    ShowsAlike (app.recalling first) (app.recalling second) where
  reply event := by simp
  active _ := rfl
  traceId _ := rfl
  views span := by cases span <;> rfl
  running _ := rfl
  descriptions _ := rfl
  carriers _ := rfl
  segments _ := rfl
  exports _ := rfl

/-- Whatever the log held before, nobody can tell. -/
theorem indistinguishable_recalling (first second : List Diagnostic) :
    Indistinguishable (app.recalling first) (app.recalling second) where
  shows events := by
    rw [recalling_foldl, recalling_foldl]
    exact showsAlike_recalling _ first second
  logs events := by
    obtain ⟨written, grown⟩ := app.log_foldl events
    exact ⟨written, grown first, grown second⟩

theorem indistinguishable_note (diagnostics : List Diagnostic) :
    Indistinguishable app (app.note diagnostics) := by
  have same := app.silenced.indistinguishable_recalling app.log (app.log ++ diagnostics)
  rwa [recalling_silenced, recalling_silenced_note] at same

theorem indistinguishable_refl : Indistinguishable app app := by
  simpa [note] using app.indistinguishable_note []

end Application

end TraceAgent
