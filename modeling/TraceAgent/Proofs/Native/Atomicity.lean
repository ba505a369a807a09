import TraceAgent.Proofs.Native.Accounting
import TraceAgent.Proofs.Native.Stored

/-! Calls of a native context that fail leave no trace.

Each store that a run leads to holds the context that the run leads to, and a
call answers the same in both. So no write comes before a failure: what could
fail after one never does.
-/

set_option autoImplicit false

namespace TraceAgent

theorem Segment.spans_link (segment : Segment) (parent : Segment.Parent) :
    (segment.link parent).spans = segment.spans := by
  unfold link joinTrace
  split <;> rfl

namespace Native

open Segment Propagation

namespace Context

def answer (context : Context) (moment : Moment) : Call → Effect
  | .activeSpan => { context, result := context.activeSpan.map .span }
  | .operate operation => context.perform moment operation

end Context

def Effect.attempt (effect : Effect) (reports : List Segment) (call : Call) : Attempt where
  store := effect.context.stored (reports ++ effect.report.toList)
  carrier := call.carrierAfter effect.result
  result := effect.result

namespace Context

variable {context : Context} {reports : List Segment} {moment : Moment}

/-- In a store that holds a context, a call does what it does on the context. -/
theorem call_stored (sound : context.Sound) (unlisted : context.Unlisted)
    (numbered : reports.length = context.past.length) (moment : Moment) (call : Call) :
    (context.stored reports).call true moment call =
      (context.answer moment call).attempt reports call := by
  cases call with
  | activeSpan =>
    unfold Store.call
    dsimp only
    rw [activeSpan_stored sound, stored_silent context]
    unfold answer
    cases context.activeSpan <;> rfl
  | operate operation =>
    unfold answer Store.call perform
    cases operation with
    | create role name peer =>
      dsimp only
      rw [createSpan_stored numbered, stored_silent (context.createSpan moment role name peer).1]
      rfl
    | stop span =>
      dsimp only
      rw [stopSpan_stored unlisted]
      cases context.stopSpan moment.now span with
      | ok stopped => rfl
      | error error => rw [stored_silent context]; rfl
    | inject carrier =>
      dsimp only
      rw [inject_stored, stored_silent context]
      cases context.inject moment.now carrier <;> rfl
    | extract carrier =>
      dsimp only
      rw [extract_stored, stored_silent (context.extract moment carrier)]
      rfl
    | capture =>
      dsimp only
      rw [capture_stored, stored_silent context]
      cases context.capture <;> rfl
    | resume snapshot =>
      dsimp only
      rw [resume_stored, stored_silent (context.resume moment snapshot)]
      rfl
    | prepare key =>
      dsimp only
      rw [prepareAsync_stored]
      cases context.prepareAsync key with
      | ok after =>
        dsimp only
        rw [stored_silent after]
        rfl
      | error error => rw [stored_silent context]; rfl
    | finish key =>
      dsimp only
      rw [finishAsync_stored unlisted]
      cases context.finishAsync moment.now key with
      | ok completed => rfl
      | error error => rw [stored_silent context]; rfl
    | annotate key remark =>
      dsimp only
      rw [edit_stored _ _ _ fun span => span.annotate_completion moment.now remark, stored_silent]
      rfl
    | applyFlags key extension =>
      dsimp only
      rw [edit_stored _ _ _ fun span => span.applyFlags_completion extension moment.now,
        stored_silent]
      rfl
    | awaitCompletion =>
      dsimp only
      have awaiting : (context.stored reports).awaitCompletion =
          context.awaitCompletion.stored reports := rfl
      rw [awaiting, stored_silent]
      rfl
    | asyncStop span =>
      dsimp only
      rw [asyncStop_stored unlisted]
      cases context.asyncStop span with
      | ok completed => rfl
      | error error => rw [stored_silent context]; rfl

theorem Unlisted.settle (unlisted : context.Unlisted) : context.settle.1.Unlisted := by
  intro opened current
  cases handed : context.settle.2 with
  | none => exact unlisted opened (settle_of_quiet handed ▸ current)
  | some report =>
    obtain ⟨_, _, _, _, after⟩ := settle_eq_some handed
    rw [after] at current
    cases current

theorem Unlisted.opened (unlisted : context.Unlisted) (moment : Moment) :
    (context.opened moment).segment.spans = [] := by
  unfold Context.opened
  cases current : context.current with
  | none => rfl
  | some opened => exact unlisted opened current

theorem Unlisted.change {paired : Bool} {after : Context} {report : Option Segment}
    (unlisted : context.Unlisted) (change : Change context moment paired after report) :
    after.Unlisted := by
  cases change with
  | stay => exact unlisted
  | create role name peer =>
    rintro _ ⟨⟩
    rw [OpenSegment.segment_enter]
    exact unlisted.opened moment
  | leave current active =>
    refine Unlisted.settle ?_
    rintro _ ⟨⟩
    rw [OpenSegment.segment_leave]
    exact unlisted _ current
  | join pending correlation extension =>
    rintro _ ⟨⟩
    rw [OpenSegment.segment_link, Segment.spans_link]
    exact unlisted.opened moment
  | edit key _ _ _ _ => exact unlisted.modifySpan key _
  | prepare key _ => exact unlisted.modifySpan key _
  | finish key _ => exact Unlisted.settle (unlisted.modifySpan key _)
  | expect => exact unlisted
  | complete => exact Unlisted.settle unlisted

theorem Unlisted.begin (config : AgentConfig) (moment : Moment) :
    (Context.begin config moment).Unlisted := by
  rintro _ ⟨⟩
  rfl

theorem Unlisted.run (unlisted : context.Unlisted) (steps : List Step) :
    (context.run steps).Unlisted := by
  induction steps generalizing context with
  | nil => exact unlisted
  | cons step steps ih => exact ih (unlisted.change (perform_change context step.1 step.2))

theorem attempt_of_error {change : Except TraceError (Context × Option Segment)}
    {error : TraceError} (fails : (context.attempt change).result = .error error) :
    change = .error error ∧ context.attempt change = { context, result := .error error } := by
  cases change with
  | ok => cases fails
  | error found =>
    cases fails
    exact ⟨rfl, rfl⟩

theorem stop_of_error {span : SpanArgument} {error : TraceError}
    (fails : (context.perform moment (.stop span)).result = .error error) :
    context.stopSpan moment.now span = .error error ∧
      context.perform moment (.stop span) = { context, result := .error error } := by
  unfold perform at fails ⊢
  dsimp only at fails ⊢
  cases stopped : context.stopSpan moment.now span with
  | ok after =>
    rw [stopped] at fails
    cases fails
  | error found =>
    rw [stopped] at fails
    cases fails
    exact ⟨rfl, rfl⟩

/-- A call that fails changes nothing and reports nothing. -/
theorem answer_of_error {call : Call} {error : TraceError}
    (fails : (context.answer moment call).result = .error error) :
    context.answer moment call = { context, result := .error error } := by
  cases call with
  | activeSpan => exact congrArg (Effect.mk context · none) fails
  | operate operation =>
    cases operation with
    | create | extract | resume | annotate | applyFlags | awaitCompletion => cases fails
    | inject carrier => exact congrArg (Effect.mk context · none) fails
    | capture => exact congrArg (Effect.mk context · none) fails
    | stop span => exact (stop_of_error fails).2
    | prepare | finish | asyncStop => exact (attempt_of_error fails).2

theorem answer_noRunningContext {call : Call}
    (fails : (context.answer moment call).result = .error .noRunningContext) :
    ∃ key, call.span? = some key ∧ context.span? key = none := by
  cases call with
  | activeSpan =>
    have refused := eq_error_of_map fails
    unfold activeSpan at refused
    split at refused <;> cases refused
  | operate operation =>
    cases operation with
    | create | extract | resume | annotate | applyFlags | awaitCompletion => cases fails
    | inject carrier =>
      have refused := eq_error_of_map fails
      unfold inject at refused
      repeat' split at refused
      all_goals cases refused
    | capture =>
      have refused := eq_error_of_map fails
      unfold capture at refused
      repeat' split at refused
      all_goals cases refused
    | stop span =>
      have refused := (stop_of_error fails).1
      unfold stopSpan at refused
      repeat' split at refused
      all_goals cases refused
    | asyncStop span =>
      have refused := (attempt_of_error fails).1
      cases span <;> cases refused
    | prepare key =>
      have refused := eq_error_of_map (attempt_of_error fails).1
      refine ⟨key, rfl, ?_⟩
      unfold prepareAsync at refused
      split at refused
      next missing => exact missing
      next => split at refused <;> cases refused
    | finish key =>
      have refused := (attempt_of_error fails).1
      refine ⟨key, rfl, ?_⟩
      unfold finishAsync at refused
      split at refused
      next missing => exact missing
      next => split at refused <;> cases refused

end Context

namespace Store

/-- Only a call that prepares a span asks whether the context is alive. -/
theorem call_ignores_alive (store : Store) (moment : Moment) {call : Call}
    (other : ∀ key, call ≠ .operate (.prepare key)) (alive : Bool) :
    store.call alive moment call = store.call true moment call := by
  cases call with
  | activeSpan => rfl
  | operate operation =>
    cases operation with
    | prepare key => exact absurd rfl (other key)
    | _ => rfl

theorem begin_stored (config : AgentConfig) (moment : Moment) :
    begin config moment = (Context.begin config moment).stored [] := by
  have blank : (Context.begin config moment).span? = fun _ => none := by
    funext key
    exact Option.map_eq_none_iff.mp (Context.completion?_begin config moment key)
  unfold Context.stored
  rw [blank]
  rfl

/-- Every store that a run leads to holds the context that the run leads to. -/
theorem run_stored {journal : Journal} (consistent : journal.Consistent)
    (sound : journal.context.Sound) (unlisted : journal.context.Unlisted) (steps : List Step) :
    (journal.context.stored journal.reports).run steps =
      (journal.run steps).context.stored (journal.run steps).reports := by
  induction steps generalizing journal with
  | nil => rfl
  | cons step steps ih =>
    have change := Context.perform_change journal.context step.1 step.2
    have called := Context.call_stored sound unlisted consistent.ordinal.symm step.1
      (.operate step.2)
    refine Eq.trans ?_ (ih (consistent.step step) (sound.change change) (unlisted.change change))
    change run ((journal.context.stored journal.reports).call true step.1 _).store steps = _
    rw [called]
    rfl

end Store

def Call.isUnfailing : Call → Bool
  | operate (.create _ _ _) | operate (.extract _) | operate (.resume _) => true
  | _ => false

/-- The span that is changed with a call is one of the context. -/
def Call.Known (call : Call) (store : Store) : Prop :=
  ∀ key, call.span? = some key → (store.cells key).isSome

theorem Context.call_succeeds (context : Context) (moment : Moment) {call : Call}
    (unfailing : call.isUnfailing) :
    ∃ output, (context.answer moment call).result = .ok output := by
  cases call with
  | activeSpan => cases unfailing
  | operate operation =>
    cases operation with
    | create | extract | resume => exact ⟨_, rfl⟩
    | _ => cases unfailing

/-- A call in a store that holds a context fails without a trace. -/
theorem Context.attempt_fails {context : Context} {reports : List Segment} {moment : Moment}
    {call : Call} {error : TraceError}
    (fails : (context.answer moment call).result = .error error) :
    ((context.answer moment call).attempt reports call).store = context.stored reports ∧
      ((context.answer moment call).attempt reports call).carrier = call.carrier? := by
  rw [answer_of_error fails]
  exact ⟨(context.stored_silent reports).symm, rfl⟩

namespace Journal

/-- Calls of a context and of its spans fail without a trace. After any run, what is written one
after the other comes to what the context is. A call that fails leaves every field, every span,
every report and the carrier as they were, also if the context is gone. Creating a span and
continuing a trace never fail, and no call misses the running context but one that prepares a
span of a context that is gone. -/
theorem run_fails_atomically (config : AgentConfig) (begun : Moment) (steps : List Step)
    (alive : Bool) (moment : Moment) {call : Call}
    (known : call.Known ((Store.begin config begun).run steps)) :
    let journal := (begin config begun).run steps
    let effect := journal.context.answer moment call
    let store := (Store.begin config begun).run steps
    let attempt := store.call alive moment call
    store = journal.context.stored journal.reports ∧
      (alive → attempt = effect.attempt journal.reports call) ∧
      (∀ error, attempt.result = .error error →
        attempt.store = store ∧ attempt.carrier = call.carrier?) ∧
      (call.isUnfailing → ∃ output, attempt.result = .ok output) ∧
      (attempt.result = .error .noRunningContext →
        ¬ alive ∧ ∃ key, call = .operate (.prepare key)) := by
  intro journal effect store attempt
  have begins := Context.Sound.begin config begun
  have consistent := (Consistent.begin config begun).run steps
  have unlisted := Context.Unlisted.begin config begun
  have follows : journal.context = (Context.begin config begun).run steps := context_run _ steps
  have held : store = journal.context.stored journal.reports := by
    refine (congrArg (Store.run · steps) (Store.begin_stored config begun)).trans ?_
    exact Store.run_stored (Consistent.begin config begun) begins unlisted steps
  have present : store.call true moment call = effect.attempt journal.reports call := by
    rw [held]
    exact Context.call_stored (follows ▸ begins.run steps) (follows ▸ unlisted.run steps)
      consistent.ordinal.symm moment call
  refine ⟨held, fun lives => ?_, ?_⟩
  · change store.call alive moment call = _
    rw [lives, present]
  by_cases gone : ¬ alive ∧ ∃ key, call = .operate (.prepare key)
  · -- The context of the span is looked for before anything is written.
    obtain ⟨dead, key, rfl⟩ := gone
    have refused : attempt = { store, result := .error .noRunningContext } := by
      change store.call alive moment _ = _
      rw [Bool.eq_false_iff.mpr dead]
      rfl
    rw [refused]
    exact ⟨fun _ _ => ⟨rfl, rfl⟩, (nomatch ·), fun _ => ⟨dead, key, rfl⟩⟩
  · have same : attempt = effect.attempt journal.reports call := by
      refine Eq.trans ?_ present
      by_cases lives : alive
      · exact congrArg (store.call · moment call) lives
      · have other : ∀ key, call ≠ .operate (.prepare key) :=
          fun key prepares => gone ⟨lives, key, prepares⟩
        exact store.call_ignores_alive moment other alive
    rw [same]
    refine ⟨fun error fails => held ▸ Context.attempt_fails fails,
      journal.context.call_succeeds moment, fun missing => ?_⟩
    obtain ⟨key, changed, unknown⟩ := Context.answer_noRunningContext missing
    have found : (store.cells key).isSome := known key changed
    rw [held] at found
    change ((journal.context.span? key).map Cell.of).isSome at found
    rw [unknown] at found
    cases found

def completedRun : List Step :=
  let moment : Moment := ⟨1, "second", "trace"⟩
  [.create .inner "work" "", .prepare ⟨0, 0⟩, .stop (.own ⟨0, 0⟩), .finish ⟨0, 0⟩].map (moment, ·)

/-- When its context is gone, the span cannot be completed once more, and stays as it is. -/
theorem completedRun_fails_atomically :
    let store := (Store.begin { instanceName := "instance" } ⟨0, "first", "trace"⟩).run completedRun
    let again : Call := .operate (.finish ⟨0, 0⟩)
    let attempt := store.call false ⟨2, "third", "trace"⟩ again
    again.Known store ∧ attempt.result = .error .asyncFinishedTwice ∧ attempt.store = store ∧
      attempt.carrier = none := by
  intro store again attempt
  have known : again.Known store := by
    rintro key ⟨⟩
    rfl
  have fails : attempt.result = .error .asyncFinishedTwice := rfl
  have atomic := run_fails_atomically { instanceName := "instance" } ⟨0, "first", "trace"⟩
    completedRun false ⟨2, "third", "trace"⟩ known
  obtain ⟨unchanged, untouched⟩ := atomic.2.2.1 _ fails
  exact ⟨known, fails, unchanged, untouched⟩

end Journal

end Native

end TraceAgent
