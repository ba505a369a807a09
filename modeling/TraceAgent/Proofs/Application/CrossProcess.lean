import TraceAgent.Proofs.Application.Evolution
import TraceAgent.Proofs.Native.Continuation
import TraceAgent.Proofs.Propagation.Headers

/-! A call from one process to another, from native context to native context.

The caller prepares a carrier for its exit span and writes it to the headers of
a message; the callee reads the headers and creates an entry span, which then
continues the exit span, whatever either process did before.
-/

set_option autoImplicit false

namespace TraceAgent.Application

open Propagation
open Segment (Role Parent)

variable {app : Application} {thread agent : Nat}

/-- The context of the thread, or the one that the agent would create for it, is native. -/
def RunsNative (app : Application) (thread agent : Nat) : Prop :=
  match app.bound thread with
  | some id => ∃ owner context, app.contexts[id]? = some (.native owner context)
  | none => ∃ config ids reporter, app.agents[agent]? = some ⟨config, .native ids reporter⟩

theorem bag_newCarrier (app : Application) (agent : Nat) : (app.newCarrier agent).bag = none := by
  unfold newCarrier Carrier.expecting
  split <;> rfl

theorem own_newCarrier (app : Application) (agent : Nat) :
    ∀ item ∈ (app.newCarrier agent).ownItems, item.1 ∈ Telemetry.B3.headers := by
  have backend : ∀ name ∈ app.expectedHeaders agent, name ∈ Telemetry.B3.headers := by
    unfold expectedHeaders
    split
    · exact fun _ => id
    all_goals exact fun _ => (nomatch ·)
  intro item member
  unfold Carrier.ownItems at member
  rw [bag_newCarrier] at member
  obtain ⟨name, expected, rfl⟩ := List.mem_map.mp member
  refine backend name ?_
  unfold newCarrier Carrier.expecting at expected
  split at expected
  · cases expected
  · exact expected

theorem newCarrier_apart {header : String}
    (part : header ∈ [Origin.header, Correlation.header, Extension.header]) (app : Application)
    (agent : Nat) : ∀ item ∈ (app.newCarrier agent).ownItems, item.1 ≠ header := by
  rintro item member rfl
  have apart : ∀ name ∈ Telemetry.B3.headers,
      name ∉ [Origin.header, Correlation.header, Extension.header] := by decide
  exact apart _ (own_newCarrier app agent item member) part

theorem getElem?_commit {id : Nat} {before next held : Native.Context} {owner : Nat}
    (found : app.contexts[id]? = some (.native owner held)) :
    (app.commit thread agent id before next).contexts[id]? = some (.native agent next) := by
  obtain ⟨bound, _⟩ := List.getElem?_eq_some_iff.mp found
  rw [contexts_commit, List.getElem?_set_self bound]

theorem createOrRelease_eq_ok (obtained : Obtained) (thread : Nat) (role : Role)
    (name peer : String) {created : Application} {span : SpanRef} :
    createOrRelease obtained thread role name peer = (created, .ok span) ↔
      obtained.app.createSpan thread obtained.id role name peer = (created, .ok span) := by
  unfold createOrRelease
  generalize obtained.app.createSpan thread obtained.id role name peer = result
  obtain ⟨app, outcome⟩ := result
  cases outcome <;> simp

theorem enterExit_eq_ok {sent : Application} {name peer : String} {fresh carrier : Carrier}
    {exit : SpanRef}
    (sends : app.enterExit thread agent name peer (some fresh) = (sent, some carrier, .ok exit)) :
    (app.obtain thread agent).app.createSpan thread (app.obtain thread agent).id .exit
        (cutName name) peer = (sent, .ok exit) ∧
      sent.inject thread (app.obtain thread agent).id fresh = .ok carrier := by
  unfold enterExit at sends
  dsimp only at sends
  cases created : createOrRelease (app.obtain thread agent) thread .exit (cutName name) peer with
  | mk after outcome =>
    rw [created] at sends
    cases outcome with
    | error => cases sends
    | ok span =>
      dsimp only at sends
      cases injected : after.inject thread (app.obtain thread agent).id fresh with
      | error =>
        rw [injected] at sends
        cases sends
      | ok prepared =>
        rw [injected] at sends
        cases sends
        exact ⟨(createOrRelease_eq_ok _ _ _ _ _).mp created, injected⟩

theorem createSpan_native {id owner : Nat} {context : Native.Context} (thread : Nat) (role : Role)
    (name peer : String) (found : app.contexts[id]? = some (.native owner context)) :
    app.createSpan thread id role name peer =
      app.createNative thread id owner context role name peer := by
  unfold createSpan
  rw [found]

/-- The native context in which a thread works for an agent: the one that it is bound to, or one
that begins. -/
def Serves (app : Application) (thread id : Nat) (context : Native.Context) : Prop :=
  (app.bound thread = some id ∧ ∃ owner, app.contexts[id]? = some (.native owner context)) ∨
    (app.bound thread = none ∧ id = app.contexts.length ∧
      ∃ config moment, context = .begin config moment)

theorem obtain_native (native : app.RunsNative thread agent) :
    ∃ owner context, app.Serves thread (app.obtain thread agent).id context ∧
      (app.obtain thread agent).app.contexts[(app.obtain thread agent).id]? =
        some (.native owner context) := by
  unfold RunsNative at native
  unfold obtain
  cases bound : app.bound thread with
  | some id =>
    rw [bound] at native
    obtain ⟨owner, context, found⟩ := native
    exact ⟨owner, context, .inl ⟨bound, owner, found⟩, found⟩
  | none =>
    rw [bound] at native
    obtain ⟨config, ids, reporter, found⟩ := native
    refine ⟨agent, .begin config (app.drawMoment thread agent).2,
      .inr ⟨bound, rfl, config, _, rfl⟩, ?_⟩
    dsimp only
    rw [contexts_bind]
    unfold createContext
    rw [found]
    dsimp only
    rw [contexts_drawMoment]
    exact List.getElem?_concat_length

theorem obtain_of_bound {id : Nat} (agent : Nat) (bound : app.bound thread = some id) :
    app.obtain thread agent = ⟨app, id, false⟩ := by
  unfold obtain
  rw [bound]

theorem bound_obtain (app : Application) (thread agent : Nat) :
    (app.obtain thread agent).app.bound thread = some (app.obtain thread agent).id := by
  unfold obtain
  split
  next bound => exact bound
  next => exact bound_bind _

theorem clock_obtain (app : Application) (thread agent : Nat) :
    (app.obtain thread agent).app.clock = app.clock := by
  unfold obtain
  split
  · rfl
  · exact clock_createContext app thread agent _

/-- An entry span with a carrier: the context continues the call and creates the span. -/
theorem enterEntry_eq_ok {entered : Application} {name : String} {carrier : Carrier}
    {returned : Option Carrier} {entry : SpanRef} :
    app.enterEntry thread agent name (some carrier) = (entered, returned, .ok entry) ↔
      returned = some ((app.obtain thread agent).app.extract thread
        (app.obtain thread agent).id carrier).2 ∧
      ((app.obtain thread agent).app.extract thread (app.obtain thread agent).id
        carrier).1.createSpan thread (app.obtain thread agent).id .entry (cutName name) "" =
          (entered, .ok entry) := by
  unfold enterEntry
  dsimp only
  generalize app.obtain thread agent = obtained
  rw [← createOrRelease_eq_ok ⟨(obtained.app.extract thread obtained.id carrier).1, obtained.id,
    obtained.created⟩]
  generalize createOrRelease _ thread .entry (cutName name) "" = result
  obtain ⟨after, outcome⟩ := result
  simp only [Prod.mk.injEq]
  constructor
  · rintro ⟨same, given, ok⟩
    exact ⟨given.symm, same, ok⟩
  · rintro ⟨given, same, ok⟩
    exact ⟨same, given.symm, ok⟩

theorem created_of_enterExit {entered : Application} {name peer : String}
    {carrier returned : Option Carrier} {exit : SpanRef}
    (enters : app.enterExit thread agent name peer carrier = (entered, returned, .ok exit)) :
    (app.obtain thread agent).app.createSpan thread (app.obtain thread agent).id .exit
      (cutName name) peer = (entered, .ok exit) := by
  unfold enterExit at enters
  dsimp only at enters
  split at enters
  next => cases enters
  next created span result =>
    have creates := (createOrRelease_eq_ok _ _ _ _ _).mp result
    split at enters
    · cases enters
      exact creates
    · split at enters
      · cases enters
        exact creates
      · cases enters

theorem created_of_enter {entered : Application} {role : Role} {name peer : String}
    {carrier returned : Option Carrier} {span : SpanRef} (plain : role = .entry → carrier = none)
    (enters : app.enter thread agent role name peer carrier = (entered, returned, .ok span)) :
    ∃ address, (app.obtain thread agent).app.createSpan thread (app.obtain thread agent).id role
      (cutName name) address = (entered, .ok span) := by
  cases role with
  | exit => exact ⟨peer, created_of_enterExit enters⟩
  | entry =>
    cases plain rfl
    unfold enter enterEntry at enters
    dsimp only at enters
    rw [Prod.mk.injEq, Prod.mk.injEq] at enters
    obtain ⟨same, _, outcome⟩ := enters
    exact ⟨"", (createOrRelease_eq_ok _ _ _ _ _).mp (Prod.ext same outcome)⟩
  | inner =>
    unfold enter enterInner at enters
    dsimp only at enters
    rw [Prod.mk.injEq, Prod.mk.injEq] at enters
    obtain ⟨same, _, outcome⟩ := enters
    exact ⟨"", (createOrRelease_eq_ok _ _ _ _ _).mp (Prod.ext same outcome)⟩

/-- Whatever its role, a span is created in the context of the thread. A call is continued
before an entry span with a carrier. -/
theorem enter_eq_ok {entered : Application} {id : Nat} {role : Role} {name peer : String}
    {carrier returned : Option Carrier} {span : SpanRef} (bound : app.bound thread = some id)
    (enters : app.enter thread agent role name peer carrier = (entered, returned, .ok span)) :
    ∃ address received, received.createSpan thread id role (cutName name) address =
        (entered, .ok span) ∧
      (received = app ∨
        ∃ call, role = .entry ∧ carrier = some call ∧
          received = (app.extract thread id call).1) := by
  have obtained := obtain_of_bound agent bound
  by_cases plain : role = .entry → carrier = none
  · obtain ⟨address, creates⟩ := created_of_enter plain enters
    rw [obtained] at creates
    exact ⟨address, app, creates, .inl rfl⟩
  · obtain ⟨rfl, brings⟩ := Classical.not_imp.mp plain
    obtain ⟨call, rfl⟩ := Option.ne_none_iff_exists'.mp brings
    obtain ⟨_, creates⟩ := enterEntry_eq_ok.mp enters
    rw [obtained] at creates
    exact ⟨"", _, creates, .inr ⟨call, rfl, rfl, rfl⟩⟩

theorem activeSpan_native {id owner : Nat} {context : Native.Context}
    (found : app.contexts[id]? = some (.native owner context)) :
    app.activeSpan thread id = context.activeSpan.map (.native id) := by
  unfold activeSpan
  rw [found]

theorem extract_native {owner id : Nat} {context : Native.Context} (thread : Nat)
    (carrier : Carrier) (found : app.contexts[id]? = some (.native owner context)) :
    app.extract thread id carrier =
      ((app.commit thread owner id context
          (context.extract (app.moment thread owner) carrier)).note
        (context.extractDiagnostics carrier), carrier) := by
  unfold extract
  rw [found]

theorem enterEntry_native {owner : Nat} {context : Native.Context} (name : String)
    (carrier : Carrier)
    (found : (app.obtain thread agent).app.contexts[(app.obtain thread agent).id]? =
      some (.native owner context)) :
    ∃ received moment later,
      app.enterEntry thread agent name (some carrier) = (received, some carrier,
        .ok (.native (app.obtain thread agent).id
          ((context.extract moment carrier).createSpan later .entry (cutName name) "").2)) ∧
      received.bound thread = some (app.obtain thread agent).id ∧
      received.contexts[(app.obtain thread agent).id]? = some (.native owner
        ((context.extract moment carrier).createSpan later .entry (cutName name) "").1) ∧
      later.now = app.now := by
  have extracted := extract_native thread carrier found
  have continued : ((app.obtain thread agent).app.extract thread (app.obtain thread agent).id
      carrier).1.contexts[(app.obtain thread agent).id]? =
        some (.native owner
          (context.extract ((app.obtain thread agent).app.moment thread owner) carrier)) := by
    rw [extracted]
    exact getElem?_commit found
  have bound : ((app.obtain thread agent).app.extract thread (app.obtain thread agent).id
      carrier).1.bound thread = some (app.obtain thread agent).id := by
    rw [extracted, bound_note, bound_commit]
    exact app.bound_obtain thread agent
  have clock : ((app.obtain thread agent).app.extract thread (app.obtain thread agent).id
      carrier).1.clock = app.clock := by
    rw [extracted]
    exact (clock_commit _ thread owner (app.obtain thread agent).id context _).trans
      (app.clock_obtain thread agent)
  have created := createSpan_native thread .entry (cutName name) "" continued
  refine ⟨_, _, _, enterEntry_eq_ok.mpr ⟨by rw [extracted], created⟩, ?_,
    getElem?_commit continued, ?_⟩
  · rw [bound_commit]
    exact bound
  · exact congrArg (max 0) clock

deriving instance DecidableEq for Except

def service (name : String) : Application :=
  (begin 0 0).addNative { service := name, instanceName := "instance" } (.counting 1) (.memory [])

def outbound : Application × Option Carrier × Except TraceError SpanRef :=
  (service "caller").enterExit 0 0 "/call" "peer:80" (some ((service "caller").newCarrier 0))

end TraceAgent.Application
