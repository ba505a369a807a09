import TraceAgent.Proofs.Application.CrossProcess
import TraceAgent.Proofs.Application.Log
import TraceAgent.Proofs.Native.Resumption

/-! What the native backend ignores, and what it does not.

A carrier that is not valid makes no difference to the entry span that is created
with it, nor to the context that extracts it. A snapshot that is not valid makes
none to a thread that is traced. A thread that is idle begins a trace for it all the
same, since only a context looks whether the snapshot is valid.
-/

set_option autoImplicit false

namespace TraceAgent.Application

open Propagation

variable {app : Application} {thread agent id owner : Nat} {context : Native.Context}
  {carrier : Carrier} {snapshot : Snapshot}

theorem commit_self (found : app.contexts[id]? = some (.native owner context)) :
    app.commit thread owner id context context = app := by
  obtain ⟨within, here⟩ := List.getElem?_eq_some_iff.mp found
  cases current : context.current <;> simp [commit, current, setContext, ← here]

theorem extract_of_invalid (invalid : ¬ carrier.isValid)
    (found : app.contexts[id]? = some (.native owner context)) :
    app.extract thread id carrier = (app.note [.invalidCarrier], carrier) := by
  simp [extract, found, Native.Context.extract, Native.Context.extractDiagnostics, invalid,
    commit_self found]

theorem resume_of_invalid (invalid : ¬ snapshot.isValid)
    (found : app.contexts[id]? = some (.native owner context)) :
    app.resume thread id snapshot = app := by
  simp [resume, found, Native.Context.resume_of_invalid invalid, Native.Context.resumeDiagnostics,
    invalid, commit_self found, note]

theorem createOrRelease_note (obtained : Obtained) (role : Segment.Role) (name peer : String)
    (diagnostics : List Diagnostic) :
    (createOrRelease { obtained with app := obtained.app.note diagnostics } thread role name peer).2 =
        (createOrRelease obtained thread role name peer).2 ∧
      Indistinguishable (createOrRelease obtained thread role name peer).1
        (createOrRelease { obtained with app := obtained.app.note diagnostics } thread role name
          peer).1 := by
  obtain ⟨app, id, created⟩ := obtained
  have quiet := recalling_createOrRelease app.log thread role name peer ⟨app.silenced, id, created⟩
  have noted := recalling_createOrRelease (app.log ++ diagnostics) thread role name peer
    ⟨app.silenced, id, created⟩
  dsimp only at quiet noted ⊢
  rw [recalling_silenced] at quiet
  rw [recalling_silenced_note] at noted
  rw [quiet, noted]
  exact ⟨rfl, indistinguishable_recalling _ _ _⟩

theorem isFromCurrent_of_idle (idle : app.bound thread = none) :
    app.isFromCurrent thread snapshot = false := by
  have uncaptured : app.captureBound thread = .error .noRunningContext := by
    simp [captureBound, running, idle]
    rfl
  unfold isFromCurrent
  rw [uncaptured]
  cases snapshot.anchor <;> rfl

section Native

variable (native : app.RunsNative thread agent)
include native

theorem enterEntry_of_invalid (invalid : ¬ carrier.isValid) (name : String) :
    (app.enterEntry thread agent name (some carrier)).2 =
        (some carrier, (app.enterEntry thread agent name none).2.2) ∧
      Indistinguishable (app.enterEntry thread agent name none).1
        (app.enterEntry thread agent name (some carrier)).1 := by
  obtain ⟨owner, context, _, found⟩ := obtain_native native
  obtain ⟨answer, alike⟩ := @createOrRelease_note thread (app.obtain thread agent) .entry
    (cutName name) "" [.invalidCarrier]
  unfold enterEntry
  dsimp only
  rw [extract_of_invalid invalid found]
  exact ⟨by rw [answer], alike⟩

theorem extractBound_of_invalid (invalid : ¬ carrier.isValid) (active : app.isActive thread) :
    app.extractBound thread carrier = (app.note [.invalidCarrier], carrier, .ok ()) := by
  obtain ⟨id, bound⟩ := Option.isSome_iff_exists.mp active
  unfold RunsNative at native
  rw [bound] at native
  obtain ⟨owner, context, found⟩ := native
  simp [extractBound, running, bound, extract_of_invalid invalid found]

/-- Nothing but the context of the thread comes of a snapshot that is not valid. -/
theorem resumeBound_of_invalid (invalid : ¬ snapshot.isValid) :
    app.resumeBound thread agent snapshot =
      if app.isFromCurrent thread snapshot then app.note [.snapshotFromCurrent]
      else (app.obtain thread agent).app := by
  obtain ⟨owner, context, _, found⟩ := obtain_native native
  simp [resumeBound, resume_of_invalid invalid found]

theorem resumeBound_of_active (invalid : ¬ snapshot.isValid) (active : app.isActive thread) :
    Indistinguishable app (app.resumeBound thread agent snapshot) := by
  obtain ⟨id, bound⟩ := Option.isSome_iff_exists.mp active
  rw [resumeBound_of_invalid native invalid, obtain_of_bound agent bound]
  split
  next => exact app.indistinguishable_note _
  next => exact app.indistinguishable_refl

/-- An idle thread has a context for the snapshot, which is bound to it and begins a trace. -/
theorem resumeBound_of_idle (invalid : ¬ snapshot.isValid) (idle : ¬ app.isActive thread) :
    app.resumeBound thread agent snapshot = (app.obtain thread agent).app ∧
      (app.resumeBound thread agent snapshot).isActive thread ∧
      (app.resumeBound thread agent snapshot).boundTraceId thread =
        (app.moment thread agent).traceId := by
  have free : app.bound thread = none := by simpa [isActive] using idle
  have resumed : app.resumeBound thread agent snapshot = (app.obtain thread agent).app := by
    simp [resumeBound_of_invalid native invalid, isFromCurrent_of_idle free]
  have bound := bound_obtain app thread agent
  unfold RunsNative at native
  rw [free] at native
  obtain ⟨config, ids, reporter, found⟩ := native
  have begun : (app.obtain thread agent).app.contexts[(app.obtain thread agent).id]? =
      some (.native agent (.begin config (app.moment thread agent))) := by
    simp [obtain, free, createContext, found, moment]
  refine ⟨resumed, ?_, ?_⟩
  · simp [resumed, isActive, bound]
  · simp [resumed, boundTraceId, bound, traceIdText, begun]
    rfl

end Native

/-- On the native backend, a carrier that is not valid is ignored. An entry span is created as if
there were none, and a thread that is traced extracts nothing: in both cases no caller can tell that
there was a carrier. A snapshot that is not valid is ignored by a thread that is traced, and by no
other: an idle thread begins a trace for it. -/
theorem ignored_input (native : app.RunsNative thread agent) :
    (∀ carrier : Carrier, ¬ carrier.isValid → ∀ name,
      (app.enterEntry thread agent name (some carrier)).2 =
          (some carrier, (app.enterEntry thread agent name none).2.2) ∧
        Indistinguishable (app.enterEntry thread agent name none).1
          (app.enterEntry thread agent name (some carrier)).1) ∧
    (∀ carrier : Carrier, ¬ carrier.isValid → app.isActive thread →
      (app.extractBound thread carrier).2 = (carrier, .ok ()) ∧
        Indistinguishable app (app.extractBound thread carrier).1) ∧
    ∀ snapshot : Snapshot, ¬ snapshot.isValid →
      (Indistinguishable app (app.resumeBound thread agent snapshot) ↔ app.isActive thread) ∧
      (¬ app.isActive thread →
        app.resumeBound thread agent snapshot = (app.obtain thread agent).app ∧
        (app.resumeBound thread agent snapshot).isActive thread ∧
        app.boundTraceId thread = noTraceId ∧
        (app.resumeBound thread agent snapshot).boundTraceId thread =
          (app.moment thread agent).traceId) := by
  refine ⟨fun carrier invalid name => enterEntry_of_invalid native invalid name,
    fun carrier invalid active => ?_, fun snapshot invalid => ⟨⟨fun same => ?_, fun active => ?_⟩,
      fun idle => ?_⟩⟩
  · rw [extractBound_of_invalid native invalid active]
    exact ⟨rfl, app.indistinguishable_note _⟩
  · by_contra idle
    obtain ⟨_, active, _⟩ := resumeBound_of_idle native invalid idle
    have shown := (same.shows []).active thread
    exact idle (shown ▸ active)
  · exact resumeBound_of_active native invalid active
  · obtain ⟨begun, active, traceId⟩ := resumeBound_of_idle native invalid idle
    have free : app.bound thread = none := by simpa [isActive] using idle
    exact ⟨begun, active, by simp [boundTraceId, free], traceId⟩

def blankCarrier : Carrier := {}

/-- A snapshot that lost the id of its segment. -/
def brokenSnapshot : Snapshot where
  anchor := some ⟨.begun "trace", "", 0, "/order"⟩
  correlation := {}

def orderTaken : Application := ((service "order").enterEntry 0 0 "/order" none).1

/-- The order is taken as if there were no carrier, and then neither of the two is noticed. -/
theorem order_ignores_input :
    ((service "order").enterEntry 0 0 "/order" (some blankCarrier)).2.2 = .ok (.native 0 ⟨0, 0⟩) ∧
      Indistinguishable orderTaken
        ((service "order").enterEntry 0 0 "/order" (some blankCarrier)).1 ∧
      Indistinguishable orderTaken (orderTaken.extractBound 0 blankCarrier).1 ∧
      Indistinguishable orderTaken (orderTaken.resumeBound 0 0 brokenSnapshot) := by
  have blank : ¬ blankCarrier.isValid := by decide
  have broken : ¬ brokenSnapshot.isValid := by decide
  have native : orderTaken.RunsNative 0 0 := ⟨_, _, rfl⟩
  obtain ⟨entering, _⟩ := @ignored_input (service "order") 0 0 ⟨_, _, _, rfl⟩
  obtain ⟨_, extracting, resuming⟩ := ignored_input native
  obtain ⟨answer, same⟩ := entering blankCarrier blank "/order"
  exact ⟨congrArg Prod.snd answer, same, (extracting blankCarrier blank rfl).2,
    (resuming brokenSnapshot broken).1.mpr rfl⟩

/-- Before there is an order, the broken snapshot alone makes the service trace its thread. -/
theorem broken_snapshot_traced :
    (service "order").Reachable ∧ (service "order").RunsNative 0 0 ∧ ¬ brokenSnapshot.isValid ∧
      (service "order").isActive 0 = false ∧ (service "order").boundTraceId 0 = "N/A" ∧
      ((service "order").resumeBound 0 0 brokenSnapshot).isActive 0 = true ∧
      ((service "order").resumeBound 0 0 brokenSnapshot).boundTraceId 0 = "2" ∧
      ¬ Indistinguishable (service "order") ((service "order").resumeBound 0 0 brokenSnapshot) := by
  refine ⟨⟨0, 0, .holding [], [.addNative { service := "order", instanceName := "instance" }
    (.counting 1) (.memory [])], rfl⟩, ⟨_, _, _, rfl⟩, by decide, rfl, rfl, rfl, by decide +kernel,
    fun same => ?_⟩
  exact absurd ((same.shows []).active 0) (by decide +kernel)

end TraceAgent.Application
