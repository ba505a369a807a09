import TraceAgent.Proofs.Telemetry.Propagator
import TraceAgent.Proofs.Telemetry.Provider
import TraceAgent.Proofs.Zipkin.Scopes
import TraceAgent.Zipkin.Context

/-! What starting and stopping a span does to a context and to the scopes of its thread.

A span that starts is registered under an identity of its own and opens a scope.
Stopping it takes back both. A call that is continued opens a scope too, and no
span stands for that one.
-/

set_option autoImplicit false

namespace TraceAgent.Zipkin

open Propagation

namespace Context

variable {context : Context} {carrier : Carrier} {received : Telemetry.Context}

theorem received?_eq_some :
    context.received? carrier = some received ↔
      context.propagator.read carrier.stored? = received ∧ received.identity.isValid := by
  unfold received?
  dsimp only
  split
  next valid =>
    exact ⟨fun same => Option.some.inj same ▸ ⟨rfl, valid⟩, fun same => congrArg some same.1⟩
  next invalid =>
    refine ⟨(nomatch ·), fun same => ?_⟩
    rw [← same.1] at same
    exact absurd same.2 invalid

theorem remote_of_received? (reads : context.propagator.ReadsRemote)
    (found : context.received? carrier = some received) : received.identity.remote := by
  obtain ⟨rfl, valid⟩ := received?_eq_some.mp found
  exact reads carrier.stored? valid

end Context

namespace State

variable {state started : State} {span : Span} {index : Nat} {now : Int} {name : String}
  {carrier : Carrier}

theorem activeSpan_eq_ok :
    state.activeSpan = .ok index ↔ state.scopes.current.identity.isValid ∧
      state.context.running.lookup state.scopes.current.identity = some index := by
  unfold activeSpan Scopes.currentIdentity?
  cases state.scopes.current.identity.isValid with
  | false => simp
  | true =>
    cases lookup : state.context.running.lookup state.scopes.current.identity <;>
      simp [lookup]

theorem activeSpan_eq_error {error : TraceError} (fails : state.activeSpan = .error error) :
    error = .noActiveSpan := by
  unfold activeSpan at fails
  split at fails
  · exact (Except.error.inj fails).symm
  · split at fails
    · cases fails
    · exact (Except.error.inj fails).symm

theorem activeSpan_congr {other : State} (scopes : other.scopes = state.scopes)
    (context : other.context = state.context) : other.activeSpan = state.activeSpan := by
  unfold activeSpan
  rw [scopes, context]

def adding (state : State) (span : Span) : State :=
  { state with
    context :=
      { state.context with
        running := state.context.running ++ [(span.identity, state.spans.length)] }
    scopes := state.scopes.openFor span.context
    spans := state.spans ++ [span] }

theorem register_eq_ok :
    state.register span = .ok (started, index) ↔
      span.identity.isValid ∧ state.context.running.lookup span.identity = none ∧
        started = state.adding span ∧ index = state.spans.length := by
  unfold register
  cases span.identity.isValid with
  | false => simp
  | true =>
    cases lookup : state.context.running.lookup span.identity with
    | some found => simp
    | none => simp [adding, eq_comm]

def StartsLocal (state : State) : Prop :=
  ∀ provider, state.recorder.providers[state.context.provider]? = some provider →
    provider.StartsLocal

/-- A span that starts is a new one of this process. -/
theorem startSpan_eq_ok {kind : Telemetry.Kind} {use : Span → Span} (own : state.StartsLocal)
    (keeps : ∀ span, (use span).context = span.context)
    (starts : state.startSpan now kind name use = (started, .ok index)) :
    ∃ recorder span, span.identity.isValid ∧ span.identity.remote = false ∧
      state.context.running.lookup span.identity = none ∧
      started = adding { state with recorder } span ∧ index = state.spans.length := by
  unfold startSpan at starts
  dsimp only at starts
  split at starts
  next registered number result =>
    cases starts
    obtain ⟨valid, fresh, grown, rfl⟩ := register_eq_ok.mp result
    refine ⟨_, _, valid, ?_, fresh, grown, rfl⟩
    rw [Span.identity, keeps]
    exact Telemetry.Recorder.start_not_remote _ _ _ _ _ _ _ own
  next => cases starts

@[simp] theorem context_changeSpan (state : State) (index : Nat) (change : Telemetry.Change) :
    (state.changeSpan index change).context = state.context := by
  unfold changeSpan
  split <;> rfl

theorem correlation_startSpan (state : State) (now : Int) (kind : Telemetry.Kind) (name : String)
    (use : Span → Span) :
    (state.startSpan now kind name use).1.context.correlation = state.context.correlation := by
  unfold startSpan
  dsimp only
  split
  next registered result =>
    obtain ⟨_, _, grown, _⟩ := register_eq_ok.mp result
    rw [grown]
    rfl
  next => rfl

theorem running_startSpan (state : State) (now : Int) (kind : Telemetry.Kind) (name : String)
    (use : Span → Span) :
    state.context.running <+: (state.startSpan now kind name use).1.context.running := by
  unfold startSpan
  dsimp only
  split
  next registered result =>
    obtain ⟨_, _, grown, _⟩ := register_eq_ok.mp result
    rw [grown]
    exact List.prefix_append _ _
  next => exact List.prefix_refl _

theorem activeSpan_adding (nested : state.scopes.Nested) (valid : span.identity.isValid)
    (fresh : state.context.running.lookup span.identity = none)
    (other : state.scopes.current.identity ≠ span.identity) :
    (state.adding span).activeSpan = .ok state.spans.length := by
  have opened : (state.adding span).scopes.current = span.context :=
    (congrArg Scopes.current (if_neg other)).trans (nested.current_attach span.context)
  rw [activeSpan_eq_ok, opened]
  refine ⟨valid, ?_⟩
  change (state.context.running ++ _).lookup span.identity = _
  rw [List.lookup_append, fresh, Option.none_or, List.lookup_cons_self]

/-- Stopping a span that was registered last takes back its registration and its scope. The
other spans keep the thread busy. -/
theorem stopSpan_adding (nested : state.scopes.Nested) (now : Int)
    (fresh : state.context.running.lookup span.identity = none)
    (other : state.scopes.current.identity ≠ span.identity)
    (busy : state.context.running ≠ []) :
    ((state.adding span).stopSpan now state.spans.length).1.context = state.context ∧
      ((state.adding span).stopSpan now state.spans.length).1.scopes = state.scopes ∧
      ((state.adding span).stopSpan now state.spans.length).2 = false := by
  have stored : (state.adding span).spans[state.spans.length]? = some span :=
    List.getElem?_concat_length
  have remains : (state.adding span).context.running.filter (·.1 != span.identity) =
      state.context.running := by
    change (state.context.running ++ [(span.identity, _)]).filter _ = _
    -- Only the new registration has the identity of the span.
    rw [List.filter_append, List.filter_cons_of_neg (by simp), List.filter_nil, List.append_nil]
    refine List.filter_eq_self.mpr ?_
    intro entry member
    have apart := List.lookup_eq_none_iff.mp fresh entry member
    simpa [bne_iff_ne, ne_comm] using apart
  have opened : (state.adding span).scopes = state.scopes.attach span.context := if_neg other
  have closed : (state.scopes.attach span.context).close span.identity = state.scopes :=
    nested.close_attach span.context
  have nonempty : state.context.running.isEmpty = false := by simpa using busy
  unfold stopSpan
  rw [stored]
  dsimp only
  rw [remains, nonempty, opened, closed, if_neg Bool.false_ne_true]
  exact ⟨rfl, rfl, rfl⟩

theorem running_stopSpan (now : Int) (listed : state.spans[index]? = some span) :
    (state.stopSpan now index).1.context.running =
        state.context.running.filter (fun entry => entry.1 != span.identity) ∧
      (state.stopSpan now index).2 =
        (state.context.running.filter fun entry => entry.1 != span.identity).isEmpty := by
  unfold stopSpan
  rw [listed]
  exact ⟨rfl, rfl⟩

theorem close_stopSpan (listed : state.spans[index]? = some span)
    (busy : (state.stopSpan now index).2 = false) :
    (state.stopSpan now index).1.scopes = state.scopes.close span.identity := by
  unfold stopSpan at busy ⊢
  rw [listed] at busy ⊢
  dsimp only at busy ⊢
  rw [busy, if_neg Bool.false_ne_true]

theorem idle_stopSpan (state : State) (now : Int) (index : Nat) :
    (state.stopSpan now index).2 = (state.stopSpan now index).1.context.running.isEmpty := by
  unfold stopSpan
  split <;> rfl

theorem scopes_extract (state : State) (carrier : Carrier) :
    (state.extract carrier).1.scopes = match state.context.received? carrier with
      | some received => state.scopes.attach received
      | none => state.scopes := rfl

/-- The span of a continued call is current, and active only if it runs here. -/
theorem activeSpan_extract (nested : state.scopes.Nested) (active : state.activeSpan = .ok index) :
    (state.extract carrier).1.activeSpan = .ok index ↔
      ∀ received, state.context.received? carrier = some received →
        state.context.running.lookup received.identity = some index := by
  rw [activeSpan_eq_ok, scopes_extract]
  cases found : state.context.received? carrier with
  | none => exact ⟨fun _ _ => (nomatch ·), fun _ => activeSpan_eq_ok.mp active⟩
  | some received =>
    obtain ⟨_, valid⟩ := Context.received?_eq_some.mp found
    dsimp only
    rw [nested.current_attach]
    constructor
    · rintro ⟨_, running⟩ _ ⟨⟩
      exact running
    · exact fun running => ⟨valid, running received rfl⟩

/-- After a call is continued, the current span is one that runs or one of another process. -/
theorem current_extract (nested : state.scopes.Nested)
    (reads : state.context.propagator.ReadsRemote) (active : state.activeSpan = .ok index) :
    (state.extract carrier).1.scopes.current.identity.remote ∨
      (state.context.running.lookup
        (state.extract carrier).1.scopes.current.identity).isSome := by
  rw [scopes_extract]
  cases found : state.context.received? carrier with
  | none => exact .inr (Option.isSome_iff_exists.mpr ⟨index, (activeSpan_eq_ok.mp active).2⟩)
  | some received =>
    dsimp only
    rw [nested.current_attach]
    exact .inl (Context.remote_of_received? reads found)

theorem nested_extract (nested : state.scopes.Nested) (carrier : Carrier) :
    (state.extract carrier).1.scopes.Nested := by
  rw [scopes_extract]
  split
  · exact nested.attach _
  · exact nested

/-- An entry span that is stopped again leaves the context and the scopes as the continued call
had left them. -/
theorem stop_entry {entry : Nat} (nested : state.scopes.Nested)
    (reads : state.context.propagator.ReadsRemote) (own : state.StartsLocal)
    (active : state.activeSpan = .ok index)
    (starts : (state.extract carrier).1.startEntry now name = (started, .ok entry))
    (later : Int) :
    started.activeSpan = .ok entry ∧ (started.stopSpan later entry).2 = false ∧
      (started.stopSpan later entry).1.context = (state.extract carrier).1.context ∧
      (started.stopSpan later entry).1.scopes = (state.extract carrier).1.scopes := by
  have continued := nested_extract nested carrier
  have starter : (state.extract carrier).1.StartsLocal := own
  unfold startEntry at starts
  obtain ⟨recorder, span, valid, here, fresh, rfl, rfl⟩ :=
    startSpan_eq_ok starter (by exact fun _ => rfl) starts
  have other : (state.extract carrier).1.scopes.current.identity ≠ span.identity := by
    intro same
    -- A new span is neither one of another process nor one that runs already.
    rcases current_extract nested reads active with remote | running
    · rw [same, here] at remote
      cases remote
    · rw [same, show state.context.running.lookup span.identity = none from fresh] at running
      cases running
  have busy : state.context.running ≠ [] := by
    intro idle
    have running := (activeSpan_eq_ok.mp active).2
    rw [idle] at running
    cases running
  obtain ⟨context, scopes, idle⟩ :=
    @stopSpan_adding { (state.extract carrier).1 with recorder } span continued later fresh other
      busy
  exact ⟨@activeSpan_adding { (state.extract carrier).1 with recorder } span continued valid fresh
    other, idle, context, scopes⟩

end State

end TraceAgent.Zipkin
