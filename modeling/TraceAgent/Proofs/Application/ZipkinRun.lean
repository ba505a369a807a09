import TraceAgent.Proofs.Application.EntryBracket
import TraceAgent.Proofs.Zipkin.Ledger

/-! A thread that works in one Zipkin context.

Spans may stop in any order, and again, and those that complete asynchronously
end when they complete. What the context keeps as running, the scopes of the
thread and the exports agree with a ledger of the run at any time.
-/

set_option autoImplicit false

namespace TraceAgent

open Propagation
open Segment (Role)

/-- A command that leaves received calls and captured traces out. The spans that it stops are those
from some place on. -/
def Command.worksFrom (first : Nat) : Command → Bool
  | .create .. | .active | .inject _ | .capture | .traceId | .correlation => true
  | .stop (some (.zipkin index)) => first ≤ index
  | .stop _ | .extract _ | .resume _ => false

/-- What a thread does in one context and with the spans from some place on, and the passing of
time. -/
def Event.worksFrom (thread id first : Nat) : Event → Bool
  | .perform caller (.context target) command =>
      caller == thread && target == id && command.worksFrom first
  | .asyncStop caller target (.zipkin index) => caller == thread && target == id && first ≤ index
  | .prepareAsync (.zipkin index) | .finishAsync (.zipkin index) => first ≤ index
  | .setClock _ => true
  | _ => false

def Event.isCreate : Event → Bool
  | .perform _ _ (.create ..) => true
  | _ => false

def Event.clock (before : Int) : Event → Int
  | .setClock clock => clock
  | _ => before

namespace Zipkin.Ledger

def after (ledger : Ledger) (clock : Int) : Event → Ledger
  | .perform _ _ (.create ..) => ledger.create
  | .perform _ _ (.stop (some (.zipkin index))) => ledger.stop index clock
  | .prepareAsync (.zipkin index) => ledger.prepare index
  | .finishAsync (.zipkin index) | .asyncStop _ _ (.zipkin index) => ledger.finish index clock
  | _ => ledger

def run (ledger : Ledger) (clock : Int) : List Event → Ledger
  | [] => ledger
  | event :: rest => (ledger.after clock event).run (event.clock clock) rest

theorem next_after (ledger : Ledger) (clock : Int) (event : Event) :
    (ledger.after clock event).next = ledger.next + if event.isCreate then 1 else 0 := by
  unfold after
  split
  · rfl
  · exact ledger.next_stop _ clock
  · exact ledger.next_prepare _
  · exact ledger.next_finish _ clock
  · exact ledger.next_finish _ clock
  next _ others _ _ _ _ =>
    cases creates : event.isCreate with
    | false => rfl
    | true =>
      unfold Event.isCreate at creates
      split at creates
      · exact absurd rfl (others _ _ _ _ _ _)
      · cases creates

theorem next_run (ledger : Ledger) (clock : Int) (events : List Event) :
    (ledger.run clock events).next = ledger.next + events.countP (·.isCreate) := by
  induction events generalizing ledger clock with
  | nil => rfl
  | cons event rest ih =>
    rw [run, ih, next_after, List.countP_cons]
    omega

end Zipkin.Ledger

namespace Application

variable {app : Application} {thread id index : Nat} {state : Zipkin.State}

namespace Works

theorem createSpan (works : app.Works thread id state) (role : Role) (name peer : String) :
    app.createSpan thread id role name peer =
      (app.commitZipkin thread id (state.startAs app.clock role name peer).1,
        (state.startAs app.clock role name peer).2.map .zipkin) := by
  unfold Application.createSpan
  rw [works.found]
  dsimp only
  rw [works.whole]
  cases role <;> rfl

theorem stopSpan (works : app.Works thread id state) (index : Nat) :
    app.stopSpan thread id (.zipkin index) =
      (app.commitZipkin thread id (state.stopSpan app.clock index).1,
        .ok (state.stopSpan app.clock index).2) := by
  unfold Application.stopSpan
  rw [works.found]
  dsimp only
  rw [works.whole]

theorem asyncStop (works : app.Works thread id state) (index : Nat) :
    app.asyncStop thread id (.zipkin index) =
      (app.commitZipkin thread id (state.finishSpan app.clock index), .ok ()) := by
  unfold Application.asyncStop
  rw [works.found]
  dsimp only
  rw [works.whole]

theorem change {later : Application} (works : app.Works thread id state)
    (contexts : later.contexts = app.contexts) (threads : later.thread thread = app.thread thread) :
    later.Works thread id
      { state with spans := later.zipkinSpans, recorder := later.recorder } where
  found := by
    rw [contexts]
    exact works.found
  whole := by
    unfold zipkinState
    rw [threads, works.scopes]

theorem spans (works : app.Works thread id state) : app.zipkinSpans = state.spans :=
  congrArg Zipkin.State.spans works.whole

theorem recorder (works : app.Works thread id state) : app.recorder = state.recorder :=
  congrArg Zipkin.State.recorder works.whole

theorem prepareAsync (works : app.Works thread id state) (index : Nat) :
    (app.prepareAsync (.zipkin index)).1.Works thread id
      { state with spans := state.spans.modify index ({ · with isAsync := true }) } := by
  rw [← works.spans]
  have marked := @change app thread id state (app.prepareAsync (.zipkin index)).1 works rfl rfl
  have same : (app.prepareAsync (.zipkin index)).1.recorder = state.recorder := works.recorder
  rw [same] at marked
  exact marked

theorem finishAsync (works : app.Works thread id state) (index : Nat) :
    (app.finishAsync (.zipkin index)).1.Works thread id (state.finishSpan app.clock index) ∧
      (app.finishAsync (.zipkin index)).1.clock = app.clock := by
  unfold Application.finishAsync finishZipkin Zipkin.State.finishSpan
  dsimp only
  rw [works.spans, works.recorder]
  cases (state.spans[index]?).bind (·.context.span) with
  | none => exact ⟨works, rfl⟩
  | some span =>
    have ended := @change app thread id state
      { app with recorder := state.recorder.finish span app.clock } works rfl rfl
    dsimp only at ended
    rw [works.spans] at ended
    exact ⟨ended, rfl⟩

end Works

/-- A context of the process agrees with a ledger of what the thread did there. -/
def Follows (app : Application) (thread id : Nat) (start : Zipkin.State)
    (provider : Telemetry.Provider) (ledger : Zipkin.Ledger) : Prop :=
  ∃ state, app.Works thread id state ∧ Zipkin.Kept start provider state ledger

section Run

variable {start : Zipkin.State} {provider : Telemetry.Provider} {ledger : Zipkin.Ledger}
  {total : Nat} {event : Event}

/-- A command keeps the agreement. -/
theorem Follows.performIn (follows : app.Follows thread id start provider ledger)
    (supplies : provider.Supplies total) {command : Command}
    (within : command.worksFrom start.spans.length)
    (enough : (ledger.after app.clock (.perform thread (.context id) command)).next -
      start.spans.length ≤ total) :
    (app.performIn thread id command).app.Follows thread id start provider
        (ledger.after app.clock (.perform thread (.context id) command)) ∧
      (app.performIn thread id command).app.clock = app.clock := by
  obtain ⟨state, works, kept⟩ := follows
  have grown := kept.grown
  cases command with
  | create role name peer carrier =>
    change ledger.next + 1 - _ ≤ total at enough
    obtain ⟨next, recording, starts, created, _⟩ :=
      kept.create supplies (by omega) app.clock role name peer
    unfold Application.performIn
    dsimp only
    rw [works.createSpan, starts]
    exact ⟨⟨next, works.commit next, created⟩, rfl⟩
  | stop span =>
    cases span with
    | none => cases within
    | some span =>
      cases span with
      | native context key => cases within
      | zipkin index =>
        change (ledger.stop index app.clock).next - _ ≤ total at enough
        rw [ledger.next_stop] at enough
        have stopped := kept.stop supplies enough (of_decide_eq_true within) app.clock
        unfold Application.performIn stopIn
        dsimp only
        rw [works.stopSpan]
        exact ⟨⟨_, works.commit _, stopped.1⟩, rfl⟩
  | inject carrier =>
    unfold Application.performIn
    dsimp only
    split <;> exact ⟨⟨state, works, kept⟩, rfl⟩
  | extract carrier => cases within
  | resume snapshot => cases within
  | _ => exact ⟨⟨state, works, kept⟩, rfl⟩

/-- Each event of a run keeps the agreement. -/
theorem Follows.step (follows : app.Follows thread id start provider ledger)
    (supplies : provider.Supplies total) (own : event.worksFrom thread id start.spans.length)
    (enough : (ledger.after app.clock event).next - start.spans.length ≤ total) :
    (app.after event).Follows thread id start provider (ledger.after app.clock event) ∧
      (app.after event).clock = event.clock app.clock := by
  have room : ledger.next - start.spans.length ≤ total := by
    rw [Zipkin.Ledger.next_after] at enough
    omega
  unfold Event.worksFrom at own
  split at own
  next caller target command =>
    simp only [Bool.and_eq_true, beq_iff_eq] at own
    obtain ⟨⟨rfl, rfl⟩, within⟩ := own
    exact follows.performIn supplies within enough
  next caller target index =>
    simp only [Bool.and_eq_true, beq_iff_eq, decide_eq_true_eq] at own
    obtain ⟨⟨rfl, rfl⟩, within⟩ := own
    obtain ⟨state, works, kept⟩ := follows
    unfold Application.after
    dsimp only
    rw [works.asyncStop]
    exact ⟨⟨_, works.commit _, kept.finish supplies room within app.clock⟩, rfl⟩
  next index =>
    obtain ⟨state, works, kept⟩ := follows
    exact ⟨⟨_, works.prepareAsync index, kept.prepare index⟩, rfl⟩
  next index =>
    obtain ⟨state, works, kept⟩ := follows
    obtain ⟨finished, clock⟩ := works.finishAsync index
    exact ⟨⟨_, finished, kept.finish supplies room (of_decide_eq_true own) app.clock⟩, clock⟩
  next clock =>
    obtain ⟨state, works, kept⟩ := follows
    exact ⟨⟨state, ⟨works.found, works.whole⟩, kept⟩, rfl⟩
  next => cases own

theorem Follows.run {events : List Event} (follows : app.Follows thread id start provider ledger)
    (supplies : provider.Supplies total)
    (own : ∀ event ∈ events, event.worksFrom thread id start.spans.length)
    (enough : (ledger.run app.clock events).next - start.spans.length ≤ total) :
    (events.foldl after app).Follows thread id start provider (ledger.run app.clock events) := by
  induction events generalizing app ledger with
  | nil => exact follows
  | cons event rest ih =>
    have later : (ledger.after app.clock event).next ≤
        (ledger.run app.clock (event :: rest)).next := by
      rw [Zipkin.Ledger.run, Zipkin.Ledger.next_run]
      omega
    obtain ⟨next, clock⟩ := follows.step supplies (own event List.mem_cons_self) (by omega)
    have rest := @ih (app.after event) (ledger.after app.clock event) next
      fun event member => own event (List.mem_cons_of_mem _ member)
    rw [clock] at rest
    exact rest enough

end Run

def zipkinContext (app : Application) (index : Nat) : Telemetry.Context :=
  ((app.zipkinSpans[index]?).map (·.context)).getD .empty

def zipkinIdentity (app : Application) (index : Nat) : Telemetry.Identity :=
  (app.zipkinContext index).identity

def zipkinRecording? (app : Application) (index : Nat) : Option Telemetry.Recording :=
  ((app.zipkinSpans[index]?).bind (·.context.span)).bind app.recorder.recorded?

theorem Works.contextOf (works : app.Works thread id state) :
    state.contextOf = app.zipkinContext := by
  funext index
  unfold zipkinContext
  rw [works.spans]
  rfl

theorem Works.identityOf (works : app.Works thread id state) :
    state.identityOf = app.zipkinIdentity := by
  funext index
  unfold zipkinIdentity
  rw [← works.contextOf]
  rfl

theorem Works.recordingOf (works : app.Works thread id state) :
    state.recordingOf = app.zipkinRecording? := by
  funext index
  unfold zipkinRecording?
  rw [works.spans, works.recorder]
  rfl

/-- What a process shows of a run of a thread in a Zipkin context, for the ledger of the run. The
spans of the run are those from the place `first` on, and `before` was exported earlier. -/
structure Shows (app : Application) (thread id provider first : Nat)
    (before : List Telemetry.Export) (ledger : Zipkin.Ledger) : Prop where
  /-- No two spans of the run have the same identity. -/
  apart : ∀ index other, first ≤ index → first ≤ other → index < ledger.next →
    other < ledger.next → app.zipkinIdentity index = app.zipkinIdentity other → index = other
  /-- The running spans are those that were created and not stopped yet. -/
  running : ∃ context, app.contexts[id]? = some (.zipkin context) ∧
    context.running = ledger.live.map fun index => (app.zipkinIdentity index, index)
  /-- They have the scopes of the thread, the last of them the innermost one. -/
  scopes : (app.thread thread).scopes = .of (ledger.live.map app.zipkinContext).reverse
  active : app.activeSpan thread id = ledger.active.map .zipkin
  /-- The next span starts, and its parent is the last of the running ones. -/
  starts : ∀ role name peer, ∃ next recording,
    app.createSpan thread id role name peer = (next, .ok (.zipkin ledger.next)) ∧
      next.zipkinRecording? ledger.next = some recording ∧
      recording.identity = next.zipkinIdentity ledger.next ∧
      recording.Under (ledger.live.getLast?.map app.zipkinIdentity)
  /-- A stop answers whether it leaves no span running, and if so no scope is open then. -/
  stops : ∀ index, first ≤ index → ∃ next,
    app.stopSpan thread id (.zipkin index) = (next, .ok (ledger.live.erase index).isEmpty) ∧
      ((ledger.live.erase index).isEmpty → (next.thread thread).scopes = .of [])
  /-- The spans that ended were exported as they ended, and each of them once. -/
  exports : ∃ exported, app.recorder.exports provider = before ++ exported ∧
    exported.map Zipkin.shown =
      ledger.ended.map (fun entry => (app.zipkinIdentity entry.1, entry.2)) ∧
    (exported.map (·.recording.identity)).Nodup

theorem Follows.shows {start : Zipkin.State} {provider : Telemetry.Provider}
    {ledger : Zipkin.Ledger} {total : Nat}
    (follows : app.Follows thread id start provider ledger) (supplies : provider.Supplies total)
    (room : ledger.next - start.spans.length < total) :
    app.Shows thread id start.context.provider start.spans.length provider.view.exports
      ledger := by
  obtain ⟨state, works, kept⟩ := follows
  obtain ⟨begun, ended, latest, recorded⟩ := kept.recorded
  have enough : ledger.next - start.spans.length ≤ total := Nat.le_of_lt room
  have places := recorded.places
  constructor
  · intro index other first second below last same
    rw [← works.identityOf] at same
    exact recorded.identityOf_inj supplies (by omega) first second below last same
  · refine ⟨state.context, works.found, ?_⟩
    rw [← works.identityOf]
    exact kept.tracked.running
  · rw [← works.contextOf, ← kept.tracked.scopes]
    exact works.scopes
  · rw [works.activeSpan, kept.active supplies enough]
  · intro role name peer
    obtain ⟨next, recording, starts, created, found, identity, under⟩ :=
      kept.create supplies room app.clock role name peer
    have committed := works.commit next
    refine ⟨app.commitZipkin thread id next, recording, ?_, ?_, ?_, ?_⟩
    · rw [works.createSpan, starts]
      rfl
    · rw [← committed.recordingOf]
      exact found
    · rw [← committed.identityOf]
      exact identity
    · rw [← works.identityOf]
      exact under
  · intro index first
    obtain ⟨stopped, answer⟩ := kept.stop supplies enough first app.clock
    refine ⟨app.commitZipkin thread id (state.stopSpan app.clock index).1, ?_, ?_⟩
    · rw [works.stopSpan, answer]
    · intro idle
      have scopes := stopped.tracked.scopes
      rw [show (ledger.stop index app.clock).live = [] from List.isEmpty_iff.mp idle] at scopes
      rw [thread_commitZipkin]
      exact scopes
  · obtain ⟨exported, exports, same⟩ := recorded.exports
    rw [works.identityOf] at same
    refine ⟨exported, ?_, same, ?_⟩
    · unfold Telemetry.Recorder.exports
      rw [works.recorder, recorded.found]
      exact exports
    · have identities : exported.map (·.recording.identity) =
          (ledger.ended.map (·.1)).map app.zipkinIdentity := by
        have shown := congrArg (List.map Prod.fst) same
        rw [List.map_map, List.map_map] at shown
        rw [List.map_map]
        exact shown
      rw [identities, ← works.identityOf]
      exact recorded.nodup_ended supplies (by omega)

/-- A run of a thread in a Zipkin context agrees with its ledger. The spans are created by any
commands and stop in any order, again, or asynchronously. If nothing was running, no scope was
open, and telemetry has a fresh valid id for every new span, records it and exports it at its first
end, then what runs, the scopes, the active span, the parent of the next span, the answers to stops,
and the exports are those of the ledger. -/
theorem zipkin_run_shows (reachable : app.Reachable) (shows : app.stack.ShowsLatest)
    {context : Zipkin.Context} (found : app.contexts[id]? = some (.zipkin context))
    (idle : context.running = []) (closed : (app.thread thread).scopes.opened = [])
    {provider : Telemetry.Provider}
    (provided : app.recorder.providers[context.provider]? = some provider) (events : List Event)
    (own : ∀ event ∈ events, event.worksFrom thread id app.zipkinSpans.length)
    (supplies : provider.Supplies (events.countP (·.isCreate) + 1)) :
    (events.foldl after app).Shows thread id context.provider app.zipkinSpans.length
      provider.view.exports
      (Zipkin.Ledger.run { next := app.zipkinSpans.length } app.clock events) := by
  have scopes : (app.thread thread).scopes = .of [] :=
    (reachable.nested shows thread).of_opened closed
  have begun : app.Follows thread id (app.zipkinState thread context) provider
      { next := app.zipkinSpans.length } :=
    ⟨_, ⟨found, rfl⟩, .begin idle scopes provided⟩
  have count : (Zipkin.Ledger.run { next := app.zipkinSpans.length } app.clock events).next -
      app.zipkinSpans.length = events.countP (·.isCreate) := by
    rw [Zipkin.Ledger.next_run]
    exact Nat.add_sub_cancel_left _ _
  exact (begun.run supplies own (Nat.le_succ_of_le (Nat.le_of_eq count))).shows supplies
    (Nat.lt_succ_of_le (Nat.le_of_eq count))

def zipkinService : Application :=
  [Event.addZipkin { service := "traced", instanceName := "instance" }
      (Telemetry.B3.propagator .single) (.counting .parentBased 1 1 1),
    .createContext 0 0 Zipkin.scopeName].foldl after (.begin 0 0)

/-- Three nested spans. The first stops before the others, twice, and the second one completes
after its stop, twice. -/
def unorderedWork : List Event :=
  [.perform 0 (.context 0) (.create .entry "/serve" "" none),
    .perform 0 (.context 0) (.create .inner "work" "" none),
    .perform 0 (.context 0) (.create .exit "/call" "peer:80" none),
    .prepareAsync (.zipkin 1), .perform 0 (.context 0) (.stop (some (.zipkin 0))),
    .perform 0 (.context 0) (.stop (some (.zipkin 0))), .perform 0 (.context 0) .capture,
    .setClock 7, .perform 0 (.context 0) (.stop (some (.zipkin 1))), .finishAsync (.zipkin 1),
    .setClock 9, .finishAsync (.zipkin 1)]

theorem supplies_counting :
    (Telemetry.Provider.counting .parentBased 1 1 1).Supplies 4 :=
  Telemetry.Sdk.supplies ⟨rfl, by decide, by decide, by decide, by decide⟩

theorem zipkinService_reachable : zipkinService.Reachable := ⟨0, 0, .holding [], _, rfl⟩

theorem unorderedWork_shown :
    (unorderedWork.foldl after zipkinService).Shows 0 0 0 0 []
      { next := 3, live := [2], marked := [1], ended := [(0, 0), (1, 7)] } :=
  @zipkin_run_shows zipkinService 0 0 zipkinService_reachable
    Telemetry.ContextStack.holding_showsLatest _ rfl rfl rfl _ rfl unorderedWork (by decide)
    supplies_counting

end Application

end TraceAgent
