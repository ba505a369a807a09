import TraceAgent.Proofs.Zipkin.State

/-! How a span of any role starts in a Zipkin context.

Telemetry starts a span under the current one. If it has an identity and none of
the running spans has the same, it is registered and gets a scope.
-/

set_option autoImplicit false

namespace TraceAgent.Zipkin

open Segment (Role)

def Span.keeping (role : Role) (telemetry : Telemetry.Span) : Span where
  context := ⟨some telemetry⟩
  isEntry := role == .entry
  isExit := role == .exit

namespace State

def kindOf : Role → Telemetry.Kind
  | .entry => .server
  | .inner => .internal
  | .exit => .client

def request (state : State) (now : Int) (role : Role) (name : String) : Telemetry.Start where
  scope := state.context.scope
  now := now
  kind := kindOf role
  name := name
  parent := state.scopes.current

def naming (role : Role) (peer : String) : List Telemetry.Change :=
  match role with
  | .exit => [.attribute peerTag peer]
  | .entry | .inner => []

/-- What telemetry makes of the start of a span: the recorder, and the span under the current
one. -/
def drawn (state : State) (now : Int) (role : Role) (name peer : String) :
    Telemetry.Recorder × Telemetry.Span :=
  let started := state.recorder.start state.context.provider state.context.scope now
    (kindOf role) name state.scopes.current
  ((naming role peer).foldl (·.change started.2 ·) started.1, started.2)

def startAs (state : State) (now : Int) (role : Role) (name peer : String) :
    State × Except TraceError Nat :=
  match role with
  | .entry => state.startEntry now name
  | .inner => state.startInner now name
  | .exit => state.startExit now name peer

variable {state started : State} {now : Int} {role : Role} {name peer : String} {index : Nat}

theorem drawn_found {provider : Telemetry.Provider}
    (found : state.recorder.providers[state.context.provider]? = some provider) (now : Int)
    (role : Role) (name peer : String) :
    (state.drawn now role name peer).2 = ⟨provider.view.identity (state.request now role name),
        some ⟨state.context.provider, provider.started⟩⟩ ∧
      (state.drawn now role name peer).1.providers[state.context.provider]? =
        some ((provider.after (.start (state.request now role name))).run
          ((naming role peer).map (.change provider.started))) := by
  obtain ⟨within, _⟩ := List.getElem?_eq_some_iff.mp found
  have started : state.recorder.start state.context.provider state.context.scope now
      (kindOf role) name state.scopes.current =
        ({ providers := state.recorder.providers.set state.context.provider
              (provider.after (.start (state.request now role name))) },
          ⟨provider.view.identity (state.request now role name),
            some ⟨state.context.provider, provider.started⟩⟩) := by
    unfold Telemetry.Recorder.start
    rw [found]
    rfl
  unfold drawn
  rw [started]
  refine ⟨rfl, ?_⟩
  cases role with
  | entry => exact List.getElem?_set_self within
  | inner => exact List.getElem?_set_self within
  | exit =>
    change (List.modify _ state.context.provider _)[state.context.provider]? = _
    rw [List.getElem?_modify_eq, List.getElem?_set_self within]
    rfl

theorem evolves_changes (recorder : Telemetry.Recorder) (span : Telemetry.Span)
    (changes : List Telemetry.Change) :
    recorder.Evolves (changes.foldl (·.change span ·) recorder) := by
  induction changes generalizing recorder with
  | nil => exact .refl recorder
  | cons change rest ih => exact (recorder.evolves_call span _).trans (ih _)

def MakesChildren (state : State) : Prop :=
  ∀ provider, state.recorder.providers[state.context.provider]? = some provider →
    provider.MakesChildren

/-- A span that starts under a current one is a child of it, from then on. -/
theorem drawn_childOf {later : Telemetry.Recorder} (makes : state.MakesChildren)
    (known : state.scopes.current.identity.isValid)
    (valid : (state.drawn now role name peer).2.identity.isValid)
    (evolves : (state.drawn now role name peer).1.Evolves later) :
    (state.drawn now role name peer).2.ChildOf later state.scopes.current.identity :=
  Telemetry.Recorder.start_childOf known makes valid ((evolves_changes _ _ _).trans evolves)

theorem startSpan_ok {kind : Telemetry.Kind} {use : Span → Span}
    {begun : Telemetry.Recorder × Telemetry.Span}
    (keeps : ∀ span, (use span).context = span.context)
    (starts : state.recorder.start state.context.provider state.context.scope now kind name
      state.scopes.current = begun)
    (valid : begun.2.identity.isValid)
    (fresh : state.context.running.lookup begun.2.identity = none) :
    state.startSpan now kind name use =
      (adding { state with recorder := begun.1 } (use { context := ⟨some begun.2⟩ }),
        .ok state.spans.length) := by
  have identity : (use { context := ⟨some begun.2⟩ }).identity = begun.2.identity := by
    unfold Span.identity
    rw [keeps]
    rfl
  have registered : register { state with recorder := begun.1 }
      (use { context := ⟨some begun.2⟩ }) = .ok
        (adding { state with recorder := begun.1 } (use { context := ⟨some begun.2⟩ }),
          state.spans.length) :=
    register_eq_ok.mpr ⟨by rw [identity]; exact valid, by rw [identity]; exact fresh, rfl, rfl⟩
  unfold startSpan
  rw [starts]
  dsimp only
  rw [registered]

theorem changeSpan_adding {span : Span} {telemetry : Telemetry.Span} (change : Telemetry.Change)
    (recorded : span.context.span = some telemetry) :
    (adding state span).changeSpan state.spans.length change =
      adding { state with recorder := state.recorder.change telemetry change } span := by
  have stored : (adding state span).spans[state.spans.length]? = some span :=
    List.getElem?_concat_length
  unfold changeSpan
  rw [stored, Option.bind_some, recorded]
  rfl

theorem startAs_ok (valid : (state.drawn now role name peer).2.identity.isValid)
    (fresh : state.context.running.lookup (state.drawn now role name peer).2.identity = none) :
    state.startAs now role name peer =
      (adding { state with recorder := (state.drawn now role name peer).1 }
        (.keeping role (state.drawn now role name peer).2), .ok state.spans.length) := by
  cases role with
  | entry =>
    exact @startSpan_ok state now name .server ({ · with isEntry := true }) _ (fun _ => rfl) rfl
      valid fresh
  | inner => exact @startSpan_ok state now name .internal id _ (fun _ => rfl) rfl valid fresh
  | exit =>
    have begun := @startSpan_ok state now name .client ({ · with isExit := true }) _
      (fun _ => rfl) rfl valid fresh
    unfold startAs startExit
    dsimp only
    rw [begun]
    dsimp only
    exact congrArg (·, _) (changeSpan_adding (.attribute peerTag peer) rfl)

theorem startSpan_result {kind : Telemetry.Kind} {use : Span → Span}
    (keeps : ∀ span, (use span).context = span.context)
    (starts : (state.startSpan now kind name use).2 = .ok index) :
    (state.recorder.start state.context.provider state.context.scope now kind name
        state.scopes.current).2.identity.isValid ∧
      state.context.running.lookup (state.recorder.start state.context.provider
        state.context.scope now kind name state.scopes.current).2.identity = none := by
  unfold startSpan at starts
  dsimp only at starts
  split at starts
  next registered number result =>
    obtain ⟨valid, fresh, _, _⟩ := register_eq_ok.mp result
    unfold Span.identity at valid fresh
    rw [keeps] at valid fresh
    exact ⟨valid, fresh⟩
  next => cases starts

/-- Only a span that has an identity of its own starts. -/
theorem startAs_eq_ok (starts : state.startAs now role name peer = (started, .ok index)) :
    (state.drawn now role name peer).2.identity.isValid ∧
      state.context.running.lookup (state.drawn now role name peer).2.identity = none ∧
      started = adding { state with recorder := (state.drawn now role name peer).1 }
        (.keeping role (state.drawn now role name peer).2) ∧
      index = state.spans.length := by
  have own : (state.drawn now role name peer).2.identity.isValid ∧
      state.context.running.lookup (state.drawn now role name peer).2.identity = none := by
    have outcome := congrArg Prod.snd starts
    cases role with
    | entry =>
      exact @startSpan_result state now name index .server ({ · with isEntry := true })
        (fun _ => rfl) outcome
    | inner =>
      exact @startSpan_result state now name index .internal id (fun _ => rfl) outcome
    | exit =>
      unfold startAs startExit at outcome
      dsimp only at outcome
      split at outcome
      next result =>
        exact @startSpan_result state now name _ .client ({ · with isExit := true })
          (fun _ => rfl) (congrArg Prod.snd result)
      next => cases outcome
  obtain ⟨valid, fresh⟩ := own
  rw [startAs_ok valid fresh] at starts
  obtain ⟨same, number⟩ := Prod.mk.inj starts
  exact ⟨valid, fresh, same.symm, (Except.ok.inj number).symm⟩

theorem startSpan_eq_error {kind : Telemetry.Kind} {use : Span → Span} {error : TraceError}
    (fails : (state.startSpan now kind name use).2 = .error error) :
    ∃ recorder, (state.startSpan now kind name use).1 = { state with recorder } := by
  unfold startSpan at fails ⊢
  dsimp only at fails ⊢
  split at fails
  next => cases fails
  next => exact ⟨_, rfl⟩

/-- A span that does not start leaves nothing behind but what telemetry recorded of it. -/
theorem startAs_eq_error {error : TraceError}
    (fails : (state.startAs now role name peer).2 = .error error) :
    ∃ recorder, (state.startAs now role name peer).1 = { state with recorder } := by
  cases role with
  | entry => exact startSpan_eq_error fails
  | inner => exact startSpan_eq_error fails
  | exit =>
    unfold startAs startExit at fails ⊢
    dsimp only at fails ⊢
    split at fails
    next => cases fails
    next refused result =>
      have failed := congrArg Prod.snd result
      obtain ⟨recorder, same⟩ := startSpan_eq_error failed
      rw [result] at same
      exact ⟨recorder, same⟩

end State

end TraceAgent.Zipkin
