import TraceAgent.Proofs.Dictionary
import TraceAgent.Proofs.Zipkin.Starting

/-! A scope too many.

The current span of a thread is that of its innermost scope, so a scope that is
open a second time does not show under the first one. Whatever a context does,
it goes as if the scope was open once, until the span of the scope has stopped
and the scopes over the second one are closed.
-/

set_option autoImplicit false

namespace TraceAgent.Zipkin

open Propagation

namespace Scopes

variable {identity stopped : Telemetry.Identity} {running rest : List (Telemetry.Identity × Nat)}
  {scopes other : Scopes} {context : Telemetry.Context}

/-- The same scopes, or one more of the span under some others. While the span runs, one of the
others is its own. -/
def Echo (identity : Telemetry.Identity) (running : List (Telemetry.Identity × Nat))
    (scopes other : Scopes) : Prop :=
  other = scopes ∨ ∃ inner top outer, inner ≠ [] ∧ top.identity = identity ∧
    scopes = .of (inner ++ outer) ∧ other = .of (inner ++ top :: outer) ∧
    ((running.lookup identity).isSome → ∃ scope ∈ inner, scope.identity = identity)

/-- One more scope over all others, of a span that does not run. -/
def Bares (identity : Telemetry.Identity) (running : List (Telemetry.Identity × Nat))
    (scopes other : Scopes) : Prop :=
  running.lookup identity = none ∧
    ∃ top, top.identity = identity ∧ scopes.Nested ∧ other = scopes.attach top

theorem Echo.again (running : List (Telemetry.Identity × Nat)) (nested : scopes.Nested)
    (valid : scopes.current.identity.isValid) :
    Echo scopes.current.identity running scopes (scopes.attach scopes.current) := by
  obtain ⟨contexts, rfl⟩ := nested
  cases contexts with
  | nil => cases valid
  | cons top outer =>
    exact .inr ⟨[top], top, outer, List.cons_ne_nil _ _, rfl, rfl, rfl,
      fun _ => ⟨top, List.mem_singleton_self top, rfl⟩⟩

theorem Echo.current (echo : Echo identity running scopes other) :
    other.current = scopes.current := by
  rcases echo with rfl | ⟨inner, top, outer, some, _, rfl, rfl, _⟩
  · rfl
  · cases inner with
    | nil => exact absurd rfl some
    | cons => rfl

theorem Echo.attach (echo : Echo identity running scopes other) (context : Telemetry.Context) :
    Echo identity running (scopes.attach context) (other.attach context) := by
  rcases echo with rfl | ⟨inner, top, outer, _, same, rfl, rfl, own⟩
  · exact .inl rfl
  · refine .inr ⟨context :: inner, top, outer, List.cons_ne_nil _ _, same, rfl, rfl, fun runs => ?_⟩
    obtain ⟨scope, member, found⟩ := own runs
    exact ⟨scope, List.mem_cons_of_mem _ member, found⟩

theorem Echo.openFor (echo : Echo identity running scopes other) (index : Nat) :
    Echo identity (running ++ [(context.identity, index)]) (scopes.openFor context)
      (other.openFor context) := by
  have current := echo.current
  rcases echo with rfl | ⟨inner, top, outer, some, same, rfl, rfl, own⟩
  · exact .inl rfl
  obtain ⟨head, tail, rfl⟩ := List.exists_cons_of_ne_nil some
  have before : (running ++ [(context.identity, index)]).lookup identity =
      running.lookup identity ∨ context.identity = identity := by
    by_cases new : identity = context.identity
    · exact .inr new.symm
    · refine .inl ?_
      rw [List.lookup_append, List.lookup_cons, beq_false_of_ne new]
      exact Option.or_none
  rw [openFor_of, openFor_of, current]
  split
  next here =>
    refine .inr ⟨head :: tail, top, outer, some, same, rfl, rfl, fun runs => ?_⟩
    rcases before with kept | new
    · exact own (kept ▸ runs)
    · exact ⟨head, List.mem_cons_self, Eq.trans here new⟩
  next =>
    refine .inr ⟨context :: head :: tail, top, outer, List.cons_ne_nil _ _, same, rfl, rfl,
      fun runs => ?_⟩
    rcases before with kept | new
    · obtain ⟨scope, member, found⟩ := own (kept ▸ runs)
      exact ⟨scope, List.mem_cons_of_mem _ member, found⟩
    · exact ⟨context, List.mem_cons_self, new⟩

/-- A span that stops closes its innermost scope. If that was the last one over the scope too many,
this is the innermost one then. -/
theorem Echo.close (echo : Echo identity running scopes other) (stopped : Telemetry.Identity) :
    Echo identity (running.filter fun entry => entry.1 != stopped) (scopes.close stopped)
        (other.close stopped) ∨
      Bares identity (running.filter fun entry => entry.1 != stopped) (scopes.close stopped)
        (other.close stopped) := by
  rcases echo with rfl | ⟨inner, top, outer, some, same, rfl, rfl, own⟩
  · exact .inl (.inl rfl)
  rw [close_of, close_of, List.eraseP_append, List.eraseP_append]
  by_cases here : inner.any fun scope => scope.identity == stopped
  · rw [if_pos here, if_pos here]
    -- While the span runs it is another one that has stopped, so its own scope stays.
    have stays : ((running.filter fun entry => entry.1 != stopped).lookup identity).isSome →
        ∃ scope ∈ inner.eraseP fun scope => scope.identity == stopped,
          scope.identity = identity := by
      intro runs
      by_cases apart : identity = stopped
      · rw [← apart, lookup_filter_self] at runs
        cases runs
      · rw [lookup_filter_ne _ apart] at runs
        obtain ⟨scope, member, found⟩ := own runs
        exact ⟨scope, (List.mem_eraseP_of_neg (by simpa [found] using apart)).mpr member, found⟩
    by_cases last : (inner.eraseP fun scope => scope.identity == stopped) = []
    · refine .inr ⟨?_, top, same, ⟨_, rfl⟩, by rw [last]; rfl⟩
      by_contra runs
      obtain ⟨scope, member, _⟩ := stays (Option.isSome_iff_ne_none.mpr runs)
      rw [last] at member
      cases member
    · exact .inl (.inr ⟨_, top, outer, last, same, rfl, rfl, stays⟩)
  · rw [if_neg here, if_neg here]
    by_cases own' : top.identity = stopped
    · have gone : ((running.filter fun entry => entry.1 != stopped).lookup identity).isSome →
          False := by
        rw [← same, own', lookup_filter_self]
        exact (nomatch ·)
      rw [List.eraseP_cons_of_pos (by simpa using own')]
      rcases List.exists_or_eq_self_of_eraseP (fun scope => scope.identity == stopped) outer
        with kept | ⟨found, before, behind, _, matched, rfl, erased⟩
      · rw [kept]
        exact .inl (.inl rfl)
      · rw [erased]
        refine .inl (.inr ⟨inner ++ before, found, behind, by simp [some], ?_, by simp, by simp,
          fun runs => (gone runs).elim⟩)
        rw [← same, own']
        simpa using matched
    · rw [List.eraseP_cons_of_neg (by simpa using own')]
      refine .inl (.inr ⟨inner, top, _, some, same, rfl, rfl, fun runs => own ?_⟩)
      rwa [lookup_filter_ne _ (same ▸ own')] at runs

theorem closeAll_congr
    (related : Echo identity running scopes other ∨ Bares identity running scopes other) :
    other.closeAll = scopes.closeAll := by
  rcases related with (rfl | ⟨inner, top, outer, _, _, rfl, rfl, _⟩) | ⟨_, top, _, nested, rfl⟩
  · rfl
  · rw [closeAll_of, closeAll_of]
  · rw [nested.closeAll_eq, (nested.attach top).closeAll_eq]

/-- The current span stops and closes its scope, and the second one is left. -/
theorem Bares.of_close (running : List (Telemetry.Identity × Nat)) (nested : scopes.Nested)
    (valid : scopes.current.identity.isValid) :
    Bares scopes.current.identity
      (running.filter fun entry => entry.1 != scopes.current.identity)
      (scopes.close scopes.current.identity)
      ((scopes.attach scopes.current).close scopes.current.identity) := by
  refine ⟨lookup_filter_self running _, scopes.current, rfl, nested.close _, ?_⟩
  obtain ⟨contexts, rfl⟩ := nested
  cases contexts with
  | nil => cases valid
  | cons top outer => simp [attach_of, close_of, current_of]

end Scopes

namespace State

variable {identity : Telemetry.Identity} {state twin : State} {now : Int} {name peer : String}

/-- Two states that differ in nothing but one more scope of the span in the second. -/
structure Echo (identity : Telemetry.Identity) (state twin : State) : Prop where
  rest : twin = { state with scopes := twin.scopes }
  scopes : Scopes.Echo identity state.context.running state.scopes twin.scopes

namespace Echo

theorem refl (state : State) : Echo identity state state := ⟨rfl, .inl rfl⟩

theorem context (echo : Echo identity state twin) : twin.context = state.context := by
  rw [echo.rest]

theorem spans (echo : Echo identity state twin) : twin.spans = state.spans := by
  rw [echo.rest]

theorem recorder (echo : Echo identity state twin) : twin.recorder = state.recorder := by
  rw [echo.rest]

variable (echo : Echo identity state twin)
include echo

theorem current : twin.scopes.current = state.scopes.current := echo.scopes.current

theorem adding (span : Span) : Echo identity (state.adding span) (twin.adding span) := by
  have opened := @Scopes.Echo.openFor _ _ _ _ span.context echo.scopes state.spans.length
  obtain ⟨rest, _⟩ := echo
  generalize twin.scopes = scopes at rest opened
  subst rest
  exact ⟨rfl, opened⟩

theorem register (span : Span) :
    twin.register span =
      (state.register span).map fun registered => (twin.adding span, registered.2) := by
  unfold State.register
  rw [echo.context, echo.spans]
  split
  · rfl
  · split
    · rfl
    · unfold State.adding
      rw [echo.context, echo.spans]
      rfl

theorem startSpan (now : Int) (kind : Telemetry.Kind) (name : String) (use : Span → Span) :
    Echo identity (state.startSpan now kind name use).1 (twin.startSpan now kind name use).1 ∧
      (twin.startSpan now kind name use).2 = (state.startSpan now kind name use).2 := by
  have same : twin.recorder.start twin.context.provider twin.context.scope now kind name
      twin.scopes.current = state.recorder.start state.context.provider state.context.scope now
        kind name state.scopes.current := by
    rw [echo.recorder, echo.context, echo.current]
  unfold State.startSpan
  dsimp only
  rw [same]
  generalize state.recorder.start state.context.provider state.context.scope now kind name
    state.scopes.current = started
  have drawn : ∀ recorder, Echo identity { state with recorder } { twin with recorder } :=
    fun recorder => ⟨by rw [echo.rest], echo.scopes⟩
  rw [(drawn started.1).register]
  cases registers : ({ state with recorder := started.1 } : State).register
      (use { context := ⟨some started.2⟩ }) with
  | error error => exact ⟨drawn _, rfl⟩
  | ok registered =>
    obtain ⟨_, _, grown, _⟩ := register_eq_ok.mp registers
    refine ⟨?_, rfl⟩
    rw [grown]
    exact (drawn started.1).adding _

theorem changeSpan (index : Nat) (change : Telemetry.Change) :
    Echo identity (state.changeSpan index change) (twin.changeSpan index change) := by
  unfold State.changeSpan
  rw [echo.spans, echo.recorder]
  split
  · exact ⟨by rw [echo.rest], echo.scopes⟩
  · exact echo

theorem startExit (now : Int) (name peer : String) :
    Echo identity (state.startExit now name peer).1 (twin.startExit now name peer).1 ∧
      (twin.startExit now name peer).2 = (state.startExit now name peer).2 := by
  obtain ⟨same, results⟩ := echo.startSpan now .client name ({ · with isExit := true })
  unfold State.startExit
  revert same results
  generalize state.startSpan now .client name ({ · with isExit := true }) = first
  generalize twin.startSpan now .client name ({ · with isExit := true }) = second
  obtain ⟨first, result⟩ := first
  obtain ⟨second, other⟩ := second
  rintro same ⟨⟩
  cases result with
  | ok index => exact ⟨same.changeSpan index _, rfl⟩
  | error error => exact ⟨same, rfl⟩

theorem startAs (now : Int) (role : Segment.Role) (name peer : String) :
    Echo identity (state.startAs now role name peer).1 (twin.startAs now role name peer).1 ∧
      (twin.startAs now role name peer).2 = (state.startAs now role name peer).2 := by
  cases role with
  | entry => exact echo.startSpan now .server name _
  | inner => exact echo.startSpan now .internal name _
  | exit => exact echo.startExit now name peer

theorem currentIdentity? : twin.scopes.currentIdentity? = state.scopes.currentIdentity? := by
  unfold Scopes.currentIdentity?
  rw [echo.current]

theorem activeSpan : twin.activeSpan = state.activeSpan := by
  unfold State.activeSpan
  rw [echo.currentIdentity?, echo.context]

theorem inject (carrier : Carrier) : twin.inject carrier = state.inject carrier := by
  unfold State.inject
  rw [echo.currentIdentity?, echo.context]

theorem capture : twin.capture = state.capture := by
  unfold State.capture
  rw [echo.currentIdentity?, echo.context, echo.current]

theorem traceId? : twin.traceId? = state.traceId? := by
  unfold State.traceId?
  rw [echo.currentIdentity?]

theorem extract (carrier : Carrier) :
    Echo identity (state.extract carrier).1 (twin.extract carrier).1 ∧
      (twin.extract carrier).2 = (state.extract carrier).2 := by
  obtain ⟨rest, related⟩ := echo
  generalize twin.scopes = scopes at rest related
  subst rest
  refine ⟨⟨rfl, ?_⟩, rfl⟩
  unfold State.extract
  dsimp only
  cases state.context.received? carrier with
  | none => exact related
  | some received => exact related.attach received

theorem resume (snapshot : Snapshot) :
    Echo identity (state.resume snapshot) (twin.resume snapshot) := by
  obtain ⟨rest, related⟩ := echo
  generalize twin.scopes = scopes at rest related
  subst rest
  refine ⟨rfl, ?_⟩
  unfold State.resume
  dsimp only
  cases captured? snapshot with
  | none => exact related
  | some captured => exact related.attach captured

theorem finishSpan (now : Int) (index : Nat) :
    Echo identity (state.finishSpan now index) (twin.finishSpan now index) := by
  unfold State.finishSpan
  rw [echo.spans, echo.recorder]
  split
  · exact ⟨by rw [echo.rest], echo.scopes⟩
  · exact echo

/-- A span stops alike. What it leaves is alike too, unless the scope too many is the innermost
one then and its span does not run. -/
theorem stopSpan (now : Int) (index : Nat) :
    (twin.stopSpan now index).2 = (state.stopSpan now index).2 ∧
      (twin.stopSpan now index).1 =
        { (state.stopSpan now index).1 with scopes := (twin.stopSpan now index).1.scopes } ∧
      (Scopes.Echo identity (state.stopSpan now index).1.context.running
          (state.stopSpan now index).1.scopes (twin.stopSpan now index).1.scopes ∨
        Scopes.Bares identity (state.stopSpan now index).1.context.running
          (state.stopSpan now index).1.scopes (twin.stopSpan now index).1.scopes) := by
  unfold State.stopSpan
  rw [echo.spans, echo.context]
  cases state.spans[index]? with
  | none => exact ⟨rfl, echo.rest, .inl echo.scopes⟩
  | some span =>
    have ended : Echo identity (if span.isAsync then state else state.finishSpan now index)
        (if span.isAsync then twin else twin.finishSpan now index) := by
      split
      · exact echo
      · exact echo.finishSpan now index
    dsimp only
    refine ⟨rfl, ?_, ?_⟩
    · rw [ended.spans, ended.recorder]
    · split
      · exact .inl (.inl (Scopes.closeAll_congr (echo.scopes.close span.identity)))
      · exact echo.scopes.close span.identity

theorem scopes_stopSpan {index : Nat} (busy : state.context.running ≠ [])
    (idle : (state.stopSpan now index).2 = true) :
    (twin.stopSpan now index).1.scopes = (state.stopSpan now index).1.scopes := by
  unfold State.stopSpan at idle ⊢
  rw [echo.spans, echo.context]
  cases listed : state.spans[index]? with
  | none =>
    rw [listed] at idle
    exact absurd (List.isEmpty_iff.mp idle) busy
  | some span =>
    rw [listed] at idle
    dsimp only at idle ⊢
    rw [if_pos idle, if_pos idle]
    exact Scopes.closeAll_congr (echo.scopes.close span.identity)

end Echo

end State

end TraceAgent.Zipkin
