import TraceAgent.Proofs.Native.Context

/-! Runs of a native context.

Everything that can be done with a context and its spans is an operation. An
operation answers a result and may hand one segment over to be reported. An
operation that fails changes nothing.
-/

set_option autoImplicit false

namespace TraceAgent.Native

open Segment Propagation

inductive Operation where
  | create (role : Role) (name peer : String)
  | stop (span : SpanArgument)
  | inject (carrier : Carrier)
  | extract (carrier : Carrier)
  | capture
  | resume (snapshot : Snapshot)
  | prepare (key : SpanKey)
  | finish (key : SpanKey)
  | annotate (key : SpanKey) (remark : Remark)
  | applyFlags (key : SpanKey) (extension : Extension)
  | awaitCompletion
  | asyncStop (span : SpanArgument)

def Operation.countsThroughSpans : Operation → Bool
  | awaitCompletion | asyncStop _ => false
  | _ => true

inductive Output where
  | done
  | span (key : SpanKey)
  | stopped (idle : Bool)
  | carrier (carrier : Carrier)
  | snapshot (snapshot : Snapshot)

structure Effect where
  context : Context
  result : Except TraceError Output
  report : Option Segment := none

/-- An operation at a moment, whose ids are used if the operation opens a segment. -/
abbrev Step := Moment × Operation

namespace Context

def attempt (context : Context) (change : Except TraceError (Context × Option Segment)) : Effect :=
  match change with
  | .ok (after, report) => { context := after, result := .ok .done, report }
  | .error error => { context, result := .error error }

def perform (context : Context) (moment : Moment) : Operation → Effect
  | .create role name peer =>
      let created := context.createSpan moment role name peer
      { context := created.1, result := .ok (.span created.2) }
  | .stop span =>
      match context.stopSpan moment.now span with
      | .ok stopped =>
          { context := stopped.context, result := .ok (.stopped stopped.idle),
            report := stopped.report }
      | .error error => { context, result := .error error }
  | .inject carrier => { context, result := (context.inject moment.now carrier).map .carrier }
  | .extract carrier => { context := context.extract moment carrier, result := .ok .done }
  | .capture => { context, result := context.capture.map .snapshot }
  | .resume snapshot => { context := context.resume moment snapshot, result := .ok .done }
  | .prepare key => context.attempt ((context.prepareAsync key).map fun after => (after, none))
  | .finish key => context.attempt (context.finishAsync moment.now key)
  | .annotate key remark =>
      { context := context.annotate moment.now key remark, result := .ok .done }
  | .applyFlags key extension =>
      { context := context.modifySpan key (·.applyFlags extension moment.now), result := .ok .done }
  | .awaitCompletion => { context := context.awaitCompletion, result := .ok .done }
  | .asyncStop span => context.attempt (context.asyncStop span)

def run (context : Context) (steps : List Step) : Context :=
  steps.foldl (fun context step => (context.perform step.1 step.2).context) context

@[simp] theorem run_nil (context : Context) : context.run [] = context := rfl

@[simp] theorem run_cons (context : Context) (step : Step) (steps : List Step) :
    context.run (step :: steps) = (context.perform step.1 step.2).context.run steps := rfl

theorem run_append (context : Context) (steps more : List Step) :
    context.run (steps ++ more) = (context.run steps).run more := List.foldl_append

/-- A context that some run leads to. -/
def Reachable (context : Context) : Prop :=
  ∃ config moment steps, context = (Context.begin config moment).run steps

def BegunBy (context : Context) (config : AgentConfig) : Prop :=
  ∃ moment steps, context = (Context.begin config moment).run steps

theorem BegunBy.reachable {context : Context} {config : AgentConfig}
    (begun : context.BegunBy config) : context.Reachable := ⟨config, begun⟩

theorem BegunBy.run {context : Context} {config : AgentConfig} (begun : context.BegunBy config)
    (steps : List Step) : (context.run steps).BegunBy config := by
  obtain ⟨moment, before, rfl⟩ := begun
  exact ⟨moment, before ++ steps, (run_append _ before steps).symm⟩

theorem Reachable.run {context : Context} (reachable : context.Reachable) (steps : List Step) :
    (context.run steps).Reachable := by
  obtain ⟨config, begun⟩ := reachable
  exact ⟨config, BegunBy.run begun steps⟩

variable {context : Context} {moment : Moment}

/-- What an operation can do to a context, and what it hands over. Only an operation that does
not count through spans expects or counts a completion alone. -/
inductive Change (context : Context) (moment : Moment) :
    Bool → Context → Option Segment → Prop where
  | stay {paired : Bool} : Change context moment paired context none
  | create {paired : Bool} (role : Role) (name peer : String) :
      Change context moment paired (context.createSpan moment role name peer).1 none
  | leave {paired : Bool} {opened : OpenSegment} {index : Nat} {rest : List Nat}
      (current : context.current = some opened) (active : opened.active = index :: rest) :
      Change context moment paired (context.leaveTop moment.now opened index).context
        (context.leaveTop moment.now opened index).report
  | join {paired : Bool} (pending : Pending) (correlation : Correlation) (extension : Extension) :
      Change context moment paired (context.join moment pending correlation extension) none
  | edit {paired : Bool} (key : SpanKey) {change : Span → Span}
      (depth : ∀ span, (change span).depth = span.depth)
      (completion : ∀ span, (change span).completion = span.completion)
      (parents : ∀ span, span.parents <+: (change span).parents)
      (descent : ∀ span, (change span).descent = span.descent) :
      Change context moment paired (context.modifySpan key change) none
  | prepare {paired : Bool} (key : SpanKey) (ready : context.completion? key = some .onStop) :
      Change context moment paired
        (context.modifySpan key (·.awaiting)).awaitCompletion none
  | finish {paired : Bool} (key : SpanKey) (awaited : context.completion? key = some .awaited) :
      Change context moment paired
        (context.modifySpan key (·.completedAt moment.now)).complete.1
        (context.modifySpan key (·.completedAt moment.now)).complete.2
  | expect : Change context moment false context.awaitCompletion none
  | complete : Change context moment false context.complete.1 context.complete.2

theorem extract_change (context : Context) (moment : Moment) (carrier : Carrier) :
    Change context moment true (context.extract moment carrier) none := by
  unfold extract
  split
  · exact .join _ _ _
  · exact .stay

theorem resume_change (context : Context) (moment : Moment) (snapshot : Snapshot) :
    Change context moment true (context.resume moment snapshot) none := by
  unfold resume
  split
  · exact .stay
  · split
    · exact .join _ _ _
    · exact .stay

theorem perform_change (context : Context) (moment : Moment) (operation : Operation) :
    Change context moment operation.countsThroughSpans (context.perform moment operation).context
      (context.perform moment operation).report := by
  cases operation with
  | create role name peer => exact .create role name peer
  | stop span =>
    unfold perform
    dsimp only
    cases stopped : context.stopSpan moment.now span with
    | error => exact .stay
    | ok after =>
      obtain ⟨opened, index, rest, current, active, _, rfl⟩ := stopSpan_eq_ok.mp stopped
      exact .leave current active
  | inject carrier => exact .stay
  | extract carrier => exact extract_change context moment carrier
  | capture => exact .stay
  | resume snapshot => exact resume_change context moment snapshot
  | prepare key =>
    unfold perform
    dsimp only
    cases prepared : context.prepareAsync key with
    | error => exact .stay
    | ok after =>
      obtain ⟨ready, rfl⟩ := prepareAsync_eq_ok.mp prepared
      exact .prepare key ready
  | finish key =>
    unfold perform
    dsimp only
    cases finished : context.finishAsync moment.now key with
    | error => exact .stay
    | ok after =>
      obtain ⟨awaited, rfl⟩ := finishAsync_eq_ok.mp finished
      exact .finish key awaited
  | annotate key remark =>
    exact .edit key (fun span => span.annotate_depth moment.now remark)
      (fun span => span.annotate_completion moment.now remark)
      (fun span => span.annotate_parents moment.now remark)
      (fun span => span.annotate_descent moment.now remark)
  | applyFlags key extension =>
    exact .edit key (fun span => span.applyFlags_depth extension moment.now)
      (fun span => span.applyFlags_completion extension moment.now)
      (fun span => by simp only [Span.applyFlags_parents, List.prefix_refl])
      (fun span => span.applyFlags_descent extension moment.now)
  | awaitCompletion => exact .expect
  | asyncStop span =>
    -- Whichever span of the backend is named, the completion is counted here.
    cases span with
    | foreign => exact .stay
    | own key => exact .complete
    | other spanId => exact .complete

/-- A step that hands a segment over settles the context last. -/
theorem Change.settles {paired : Bool} {after : Context} {report : Segment}
    (change : Change context moment paired after (some report)) :
    ∃ before : Context, after = before.settle.1 ∧ before.settle.2 = some report := by
  generalize handed : some report = option at change
  cases change with
  | leave current active => exact ⟨_, rfl, rfl⟩
  | finish key awaited => exact ⟨_, rfl, rfl⟩
  | complete => exact ⟨_, rfl, rfl⟩
  | _ => cases handed

theorem Sound.change {paired : Bool} {after : Context} {report : Option Segment}
    (sound : context.Sound) (change : Change context moment paired after report) : after.Sound := by
  cases change with
  | stay => exact sound
  | create role name peer => exact sound.createSpan moment role name peer
  | leave current active => exact sound.leaveTop current active
  | join pending correlation extension => exact sound.join moment pending correlation extension
  | edit key depth _ _ _ =>
    exact sound.modifySpan key fun span positive => by rwa [depth span]
  | prepare key _ =>
    exact Sound.awaitCompletion (sound.modifySpan key fun _ positive => positive)
  | finish key _ =>
    exact Sound.complete (sound.modifySpan key fun _ positive => positive)
  | expect => exact sound.awaitCompletion
  | complete => exact sound.complete

theorem Sound.extract (sound : context.Sound) (moment : Moment) (carrier : Carrier) :
    (context.extract moment carrier).Sound := sound.change (extract_change context moment carrier)

theorem Sound.activeSpan_extract {key : SpanKey} (sound : context.Sound) (moment : Moment)
    (carrier : Carrier) (active : context.activeSpan = .ok key) :
    (context.extract moment carrier).activeSpan = .ok key := by
  obtain ⟨index, rest, stack, rfl⟩ := sound.activeSpan_eq_ok.mp active
  refine (sound.extract moment carrier).activeSpan_eq_ok.mpr ⟨index, rest, ?_, ?_⟩
  all_goals unfold Context.extract; split
  · rw [active_join]
    exact stack
  · exact stack
  all_goals rfl

theorem Sound.run (sound : context.Sound) (steps : List Step) : (context.run steps).Sound := by
  induction steps generalizing context with
  | nil => exact sound
  | cons step steps ih => exact ih (sound.change (perform_change context step.1 step.2))

theorem Reachable.sound (reachable : context.Reachable) : context.Sound := by
  obtain ⟨config, moment, steps, rfl⟩ := reachable
  exact (Sound.begin config moment).run steps

end Context

end TraceAgent.Native
