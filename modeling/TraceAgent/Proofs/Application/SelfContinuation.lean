import TraceAgent.Proofs.Application.Echo

/-! A thread that continues a capture of its own active span.

On the native backend the capture names the segment that runs on the thread, and
is ignored. On the Zipkin backend the active span becomes current a second time.
That does not show as long as the span runs, but if it stops before another one
does, the thread is left with its scope.
-/

set_option autoImplicit false

namespace TraceAgent

open Propagation
open Segment (Role)

structure Call where
  clock : Int
  agent : Nat
  command : Command

namespace Application

variable {app other : Application} {thread id agent index : Nat} {identity : Telemetry.Identity}
  {active : SpanRef} {state : Zipkin.State}

def answer (app : Application) (thread : Nat) (call : Call) : Outcome :=
  Application.performBound { app with clock := call.clock } thread call.agent call.command

/-- Two processes that look the same: the active span of the thread, whether it has a context, and
what the agents reported and exported. -/
structure LooksLike (thread : Nat) (app other : Application) : Prop where
  activeBound : other.activeBound thread = app.activeBound thread
  isActive : other.isActive thread = app.isActive thread
  reportedSegments : other.reportedSegments = app.reportedSegments
  exportedSpans : other.exportedSpans = app.exportedSpans

/-- The calls of a thread have the same answers in two processes, and these look the same before
and after each of them. Nothing is said of what follows a call that parts the two. -/
def SameCourse (thread : Nat) (parts : Application → Application → Prop)
    (app other : Application) : List Call → Prop
  | [] => LooksLike thread app other
  | call :: rest =>
      LooksLike thread app other ∧
        (other.answer thread call).carrier = (app.answer thread call).carrier ∧
        (other.answer thread call).result = (app.answer thread call).result ∧
        (parts (app.answer thread call).app (other.answer thread call).app ∨
          SameCourse thread parts (app.answer thread call).app (other.answer thread call).app rest)

theorem Echoes.looksLike (echoes : Echoes thread id identity app other) :
    LooksLike thread app other := by
  have reports : ∀ {app : Application}, app.core.reportedSegments = app.reportedSegments := rfl
  have exports : ∀ {app : Application}, app.core.exportedSpans = app.exportedSpans := rfl
  refine ⟨echoes.activeBound, echoes.isActive, ?_, ?_⟩
  · rw [← reports, echoes.core, reports]
  · rw [← exports, echoes.core, exports]

/-- A scope too many does not show until the thread is stranded. -/
theorem Echoes.sameCourse (echoes : Echoes thread id identity app other) (calls : List Call) :
    SameCourse thread (Strands thread id identity) app other calls := by
  induction calls generalizing app other with
  | nil => exact echoes.looksLike
  | cons call rest ih =>
    obtain ⟨after, carrier, result⟩ :=
      (echoes.setClock call.clock).performBound call.agent call.command
    refine ⟨echoes.looksLike, carrier, result, ?_⟩
    rcases after with echoes | strands
    · exact .inr (ih echoes)
    · exact .inl strands

theorem sameCourse_of_scopes (echoes : ∀ id, Echoes thread id identity app other)
    (calls : List Call) : SameCourse thread (fun _ _ => False) app other calls := by
  induction calls generalizing app other with
  | nil => exact (echoes 0).looksLike
  | cons call rest ih =>
    -- A context that the thread is not in afterwards cannot be the one with a scope too many.
    have apart : (app.answer thread call).app.bound thread ≠
        some ((((app.answer thread call).app.bound thread).getD 0) + 1) := by
      cases (app.answer thread call).app.bound thread with
      | none => exact (nomatch ·)
      | some current => exact fun same => Nat.succ_ne_self current (Option.some.inj same).symm
    obtain ⟨after, carrier, result⟩ := ((echoes _).setClock call.clock).performBound call.agent
      call.command
    refine ⟨(echoes 0).looksLike, carrier, result, .inr (ih fun id => ?_)⟩
    rcases after with next | strands
    · exact next.anew (next.away apart) id
    · exact absurd strands.home apart

/-- A native capture names the segment that runs on the thread, so it is ignored there. -/
theorem resumeBound_own_native (agent : Nat) {key : Native.SpanKey}
    (runs : app.Active thread id (.native id key)) :
    ∃ snapshot, app.captureBound thread = .ok snapshot ∧
      app.resumeBound thread agent snapshot = app.note [.snapshotFromCurrent] := by
  cases runs with
  | native bound found top =>
    rename_i owner context
    obtain ⟨snapshot, anchor, captures, named⟩ : ∃ snapshot anchor,
        context.capture = .ok snapshot ∧ snapshot.anchor = some anchor := by
      unfold Native.Context.activeSpan Native.Context.top? at top
      unfold Native.Context.capture
      cases current : context.current with
      | none =>
        rw [current] at top
        cases top
      | some opened =>
        rw [current, Option.bind_some] at top
        dsimp only
        cases active : opened.top? with
        | none =>
          rw [active] at top
          cases top
        | some entry => exact ⟨_, _, rfl, rfl⟩
    have captured : app.captureBound thread = .ok snapshot := by
      unfold captureBound running
      rw [bound]
      change app.capture thread id = _
      unfold Application.capture
      rw [found]
      exact captures
    refine ⟨snapshot, captured, if_pos ?_⟩
    unfold isFromCurrent
    obtain ⟨own, correlation, extension, bag⟩ := snapshot
    cases named
    rw [captured]
    exact beq_self_eq_true anchor.segmentId

theorem Works.core_commit (works : app.Works thread id state) (scopes : Zipkin.Scopes) :
    (app.commitZipkin thread id { state with scopes }).core = app.core := by
  have contexts : app.contexts.set id (.zipkin state.context) = app.contexts := by
    obtain ⟨within, here⟩ := List.getElem?_eq_some_iff.mp works.found
    rw [← here, List.set_getElem_self]
  change { app.core with
    contexts := app.contexts.set id (.zipkin state.context), zipkinSpans := state.spans
    recorder := state.recorder } = app.core
  rw [contexts, ← works.spans, ← works.recorder]
  rfl

/-- A thread that continues a capture of its active Zipkin span has one more scope of it. -/
theorem resumeBound_own_zipkin (agent : Nat) (tracing : app.Tracing thread id state)
    (top : state.activeSpan = .ok index) :
    ∃ snapshot, app.captureBound thread = .ok snapshot ∧
      (app.resumeBound thread agent snapshot).core = app.core ∧
      (app.resumeBound thread agent snapshot).Tracing thread id
        { state with scopes := state.scopes.attach state.scopes.current } := by
  obtain ⟨valid, _⟩ := Zipkin.State.activeSpan_eq_ok.mp top
  obtain ⟨snapshot, captures⟩ : ∃ snapshot, state.capture = .ok snapshot := by
    unfold Zipkin.State.capture Zipkin.Scopes.currentIdentity?
    rw [if_pos valid]
    exact ⟨_, rfl⟩
  have captured : app.captureBound thread = .ok snapshot := by
    unfold captureBound running
    rw [tracing.bound]
    change app.capture thread id = _
    unfold Application.capture
    rw [tracing.found]
    dsimp only
    rw [tracing.whole, captures]
  obtain ⟨_, foreign, holds⟩ := Zipkin.State.capture_eq_ok captures
  have correlation : snapshot.correlation = state.context.correlation := by
    unfold Zipkin.State.capture Zipkin.Scopes.currentIdentity? at captures
    rw [if_pos valid] at captures
    cases captures
    rfl
  have resumed : state.resume snapshot =
      { state with scopes := state.scopes.attach state.scopes.current } := by
    unfold Zipkin.State.resume
    rw [holds, correlation, Correlation.merge_self]
  have elsewhere : app.isFromCurrent thread snapshot = false := by
    unfold isFromCurrent
    rw [foreign]
  have continued : app.resumeBound thread agent snapshot =
      (app.commitZipkin thread id
        { state with scopes := state.scopes.attach state.scopes.current }).note
          (state.resumeDiagnostics snapshot) := by
    unfold resumeBound
    rw [elsewhere, obtain_of_bound agent tracing.bound, ← resumed]
    exact tracing.resume snapshot
  refine ⟨snapshot, captured, ?_, ?_⟩
  · rw [continued]
    exact tracing.core_commit _
  · rw [continued]
    exact (tracing.commit _).note _

theorem Echoes.of_again (core : other.core = app.core) (tracing : app.Tracing thread id state)
    (nested : state.scopes.Nested) (top : state.activeSpan = .ok index)
    (again : other.Tracing thread id
      { state with scopes := state.scopes.attach state.scopes.current }) :
    Echoes thread id state.scopes.current.identity app other := by
  obtain ⟨valid, runs⟩ := Zipkin.State.activeSpan_eq_ok.mp top
  have busy : state.context.running ≠ [] := by
    intro idle
    rw [idle] at runs
    cases runs
  refine ⟨core, again.bound.trans tracing.bound.symm,
    .inr ⟨tracing.bound, state.context, tracing.found, busy, ?_⟩⟩
  rw [tracing.scopes, again.scopes]
  exact .again _ nested valid

theorem Tracing.isActive_stopActive (tracing : app.Tracing thread id state)
    (top : state.activeSpan = .ok index) :
    (app.stopActive thread).1.isActive thread = !(state.stopSpan app.clock index).2 := by
  unfold Application.isActive
  cases idle : (state.stopSpan app.clock index).2 with
  | false =>
    rw [tracing.stopActive top idle, bound_commitZipkin, tracing.bound]
    rfl
  | true =>
    unfold Application.stopActive running
    rw [tracing.bound]
    dsimp only
    rw [tracing.activeSpan, top]
    unfold Except.map finishSpan
    dsimp only
    rw [tracing.stopSpan, idle]
    dsimp only
    rw [bound_bind]
    rfl

/-- If the active span stops before another one does, the thread is stranded. -/
theorem strands_stopActive {span : Zipkin.Span} (core : other.core = app.core)
    (tracing : app.Tracing thread id state) (nested : state.scopes.Nested)
    (top : state.activeSpan = .ok index)
    (again : other.Tracing thread id
      { state with scopes := state.scopes.attach state.scopes.current })
    (listed : state.spans[index]? = some span)
    (own : span.identity = state.scopes.current.identity)
    (stays : (app.stopActive thread).1.isActive thread) :
    Strands thread id state.scopes.current.identity (app.stopActive thread).1
      (other.stopActive thread).1 := by
  obtain ⟨valid, runs⟩ := Zipkin.State.activeSpan_eq_ok.mp top
  have echoes := Echoes.of_again core tracing nested top again
  have twinTop : Zipkin.State.activeSpan
      { state with scopes := state.scopes.attach state.scopes.current } = .ok index :=
    Zipkin.State.activeSpan_eq_ok.mpr (by rw [nested.current_attach]; exact ⟨valid, runs⟩)
  have echo : state.Echo state.scopes.current.identity
      { state with scopes := state.scopes.attach state.scopes.current } := ⟨rfl, .again _ nested valid⟩
  have busy : (state.stopSpan app.clock index).2 = false := by
    rw [tracing.isActive_stopActive top] at stays
    exact Bool.not_eq_true' _ ▸ stays
  obtain ⟨same, rest, _⟩ := echo.stopSpan app.clock index
  have twinBusy := same.trans busy
  have stopped := (state.running_stopSpan app.clock listed).1
  rw [tracing.stopActive top busy, again.stopActive twinTop (echoes.clock ▸ twinBusy), echoes.clock]
  have works := again.toWorks.commit (Zipkin.State.stopSpan
    { state with scopes := state.scopes.attach state.scopes.current } app.clock index).1
  refine ⟨echoes.core_commitZipkin rest, ?_, ?_, _, works.found, ?_⟩
  · rw [bound_commitZipkin, bound_commitZipkin, echoes.bound]
  · rw [bound_commitZipkin, tracing.bound]
  · rw [thread_commitZipkin, thread_commitZipkin, rest]
    dsimp only
    rw [stopped, Zipkin.State.close_stopSpan listed busy,
      @Zipkin.State.close_stopSpan { state with scopes := state.scopes.attach state.scopes.current } span
        index app.clock listed twinBusy, own]
    exact .of_close _ nested valid

/-- A thread that continues a capture of its own active span. On the native backend every later
call goes as if it had not. On the Zipkin backend this is so until the thread is stranded: the span
has stopped, its scope is the innermost one, and it hides the spans that run. That happens at once
where the active span is stopped and others run. -/
theorem continued_own_capture (reachable : app.Reachable)
    (runs : app.activeBound thread = .ok active) (agent : Nat) :
    ∃ snapshot, app.captureBound thread = .ok snapshot ∧
      (∀ home key, active = .native home key → ∀ calls,
        SameCourse thread (fun _ _ => False) app (app.resumeBound thread agent snapshot) calls) ∧
      ∀ index, active = .zipkin index → app.stack.ShowsLatest → ∃ id,
        (∀ calls, SameCourse thread (Strands thread id (app.zipkinIdentity index)) app
          (app.resumeBound thread agent snapshot) calls) ∧
        ((app.stopActive thread).1.isActive thread →
          Strands thread id (app.zipkinIdentity index) (app.stopActive thread).1
            ((app.resumeBound thread agent snapshot).stopActive thread).1) := by
  obtain ⟨id, before⟩ := activeBound_eq_ok.mp runs
  cases before with
  | @native owner context key bound found top =>
    obtain ⟨snapshot, captured, ignored⟩ :=
      resumeBound_own_native agent (.native bound found top : app.Active thread id (.native id key))
    refine ⟨snapshot, captured, fun _ _ _ calls => ?_, fun _ other => nomatch other⟩
    have noted : ∀ id, Echoes thread id (app.zipkinIdentity 0) app
        (app.note [.snapshotFromCurrent]) := fun _ => ⟨rfl, rfl, .inl rfl⟩
    rw [ignored]
    exact sameCourse_of_scopes noted calls
  | @zipkin state index tracing top =>
    obtain ⟨snapshot, captured, core, again⟩ := resumeBound_own_zipkin agent tracing top
    obtain ⟨_, found⟩ := Zipkin.State.activeSpan_eq_ok.mp top
    obtain ⟨earlier, later, running, _⟩ := List.lookup_eq_some_iff.mp found
    obtain ⟨span, listed, own⟩ := reachable.listed tracing.found
      (running ▸ List.mem_append_right earlier List.mem_cons_self)
    have identity : app.zipkinIdentity index = state.scopes.current.identity := by
      unfold zipkinIdentity zipkinContext
      rw [listed]
      exact own
    refine ⟨snapshot, captured, fun _ _ other => (nomatch other), ?_⟩
    rintro _ ⟨⟩ shows
    rw [identity]
    have nested : state.scopes.Nested := tracing.scopes ▸ reachable.nested shows thread
    exact ⟨id, (Echoes.of_again core tracing nested top again).sameCourse,
      strands_stopActive core tracing nested top again (tracing.spans ▸ listed) own⟩

def nestedWork (agent : Event) : Application :=
  [agent, .perform 0 (.thread 0) (.create .inner "outer" "" none),
    .perform 0 (.thread 0) (.create .inner "inner" "" none)].foldl after (.begin 0 0)

def nestedNative : Application :=
  nestedWork (.addNative { service := "service", instanceName := "instance" } (.counting 1)
    (.memory []))

def nestedZipkin : Application :=
  nestedWork (.addZipkin { service := "service", instanceName := "instance" }
    (Telemetry.B3.propagator .single) (.counting .parentBased 1 1 1))

theorem nested_continued :
    (∃ snapshot, nestedNative.captureBound 0 = .ok snapshot ∧ ∀ calls,
      SameCourse 0 (fun _ _ => False) nestedNative (nestedNative.resumeBound 0 0 snapshot) calls) ∧
    ∃ snapshot, nestedZipkin.captureBound 0 = .ok snapshot ∧ ∃ id,
      Strands 0 id (nestedZipkin.zipkinIdentity 1) (nestedZipkin.stopActive 0).1
        ((nestedZipkin.resumeBound 0 0 snapshot).stopActive 0).1 := by
  have native : nestedNative.activeBound 0 = .ok (.native 0 ⟨0, 1⟩) := rfl
  have zipkin : nestedZipkin.activeBound 0 = .ok (.zipkin 1) := rfl
  obtain ⟨first, captured, ignored, _⟩ := continued_own_capture ⟨0, 0, .holding [], _, rfl⟩ native 0
  obtain ⟨second, taken, _, again⟩ := continued_own_capture ⟨0, 0, .holding [], _, rfl⟩ zipkin 0
  obtain ⟨id, _, strands⟩ := again 1 rfl Telemetry.ContextStack.holding_showsLatest
  exact ⟨⟨first, captured, ignored 0 ⟨0, 1⟩ rfl⟩, second, taken, id, strands rfl⟩

/-- When the inner span has stopped, the outer one is active, but a thread that continued a capture
of the inner one finds no active span. -/
theorem outer_span_lost : ∃ snapshot,
    nestedZipkin.Reachable ∧ nestedZipkin.captureBound 0 = .ok snapshot ∧
      (nestedZipkin.stopActive 0).1.activeBound 0 = .ok (.zipkin 0) ∧
      ((nestedZipkin.resumeBound 0 0 snapshot).stopActive 0).1.activeBound 0 =
        .error .noActiveSpan ∧
      ¬ SameCourse 0 (fun _ _ => False) nestedZipkin (nestedZipkin.resumeBound 0 0 snapshot)
        [⟨0, 0, .stop none⟩] := by
  refine ⟨_, ⟨0, 0, .holding [], _, rfl⟩, rfl, rfl, rfl, fun same => ?_⟩
  obtain ⟨_, _, _, none | after⟩ := same
  · exact none
  · exact nomatch after.activeBound

end Application

end TraceAgent
