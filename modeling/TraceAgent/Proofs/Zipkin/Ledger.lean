import Mathlib.Data.List.Nodup
import TraceAgent.Proofs.General
import TraceAgent.Proofs.Zipkin.Starting

/-! What a run of a Zipkin context did to its spans, and how the state shows it.

The ledger is kept from the operations alone: which spans were created, which of
them were not stopped yet, which complete asynchronously, and when each ended.
As long as telemetry has fresh identities for new spans, the running spans and
the scopes of the thread are those of the ledger, and exactly the ended ones
were exported.
-/

set_option autoImplicit false

namespace TraceAgent.Zipkin

open Segment (Role)

/-- The spans of a run by their places: the place of the next one, those that were created and
not stopped yet in the order of their creation, those that complete asynchronously, and those
that ended with their times, in the order in which they ended. -/
structure Ledger where
  next : Nat
  live : List Nat := []
  marked : List Nat := []
  ended : List (Nat × Int) := []
  deriving DecidableEq, Repr

namespace Ledger

def create (ledger : Ledger) : Ledger :=
  { ledger with next := ledger.next + 1, live := ledger.live ++ [ledger.next] }

def finish (ledger : Ledger) (index : Nat) (now : Int) : Ledger :=
  if index < ledger.next ∧ index ∉ ledger.ended.map (·.1) then
    { ledger with ended := ledger.ended ++ [(index, now)] }
  else ledger

def stop (ledger : Ledger) (index : Nat) (now : Int) : Ledger :=
  { if index ∈ ledger.marked then ledger else ledger.finish index now with
    live := ledger.live.erase index }

def prepare (ledger : Ledger) (index : Nat) : Ledger :=
  if index < ledger.next then { ledger with marked := index :: ledger.marked } else ledger

def active (ledger : Ledger) : Except TraceError Nat :=
  match ledger.live.getLast? with
  | some index => .ok index
  | none => .error .noActiveSpan

@[simp] theorem next_finish (ledger : Ledger) (index : Nat) (now : Int) :
    (ledger.finish index now).next = ledger.next := by
  unfold finish
  split <;> rfl

@[simp] theorem live_finish (ledger : Ledger) (index : Nat) (now : Int) :
    (ledger.finish index now).live = ledger.live := by
  unfold finish
  split <;> rfl

@[simp] theorem next_stop (ledger : Ledger) (index : Nat) (now : Int) :
    (ledger.stop index now).next = ledger.next := by
  unfold stop
  dsimp only
  split
  · rfl
  · exact ledger.next_finish index now

@[simp] theorem next_prepare (ledger : Ledger) (index : Nat) :
    (ledger.prepare index).next = ledger.next := by
  unfold prepare
  split <;> rfl

@[simp] theorem live_prepare (ledger : Ledger) (index : Nat) :
    (ledger.prepare index).live = ledger.live := by
  unfold prepare
  split <;> rfl

@[simp] theorem ended_prepare (ledger : Ledger) (index : Nat) :
    (ledger.prepare index).ended = ledger.ended := by
  unfold prepare
  split <;> rfl

end Ledger

section Keyed

variable {identity : Nat → Telemetry.Identity} {context : Nat → Telemetry.Context}
  {live : List Nat} {index : Nat}

theorem filter_running (nodup : live.Nodup)
    (apart : ∀ other ∈ live, identity other = identity index → other = index) :
    (live.map fun other => (identity other, other)).filter (·.1 != identity index) =
      (live.erase index).map fun other => (identity other, other) := by
  rw [nodup.erase_eq_filter, List.filter_map]
  congr 1
  apply List.filter_congr
  intro other member
  by_cases same : other = index
  · simp [same]
  · have differs : identity other ≠ identity index := fun equal => same (apart other member equal)
    simp only [Function.comp_apply, bne, beq_eq_false_iff_ne.mpr differs,
      beq_eq_false_iff_ne.mpr same]

theorem lookup_running (member : index ∈ live)
    (apart : ∀ other ∈ live, identity other = identity index → other = index) :
    (live.map fun other => (identity other, other)).lookup (identity index) = some index := by
  induction live with
  | nil => cases member
  | cons first rest ih =>
    rw [List.map_cons, List.lookup_cons]
    by_cases same : identity first = identity index
    · rw [apart first List.mem_cons_self same, beq_self_eq_true]
    · have later : index ∈ rest := by
        rcases List.mem_cons.mp member with rfl | later
        · exact absurd rfl same
        · exact later
      rw [beq_eq_false_iff_ne.mpr fun equal => same equal.symm]
      exact ih later fun other here => apart other (List.mem_cons_of_mem _ here)

/-- Closing the scope of a span leaves those of the others, in whatever order they close. -/
theorem close_scopes (nodup : live.Nodup)
    (named : ∀ other ∈ live, (context other).identity = identity other)
    (apart : ∀ other ∈ live, identity other = identity index → other = index) :
    (Scopes.of (live.map context).reverse).close (identity index) =
      .of ((live.erase index).map context).reverse := by
  have reversed : live.reverse.Nodup := List.nodup_reverse.mpr nodup
  have place : live.reverse.eraseP
      ((fun scope : Telemetry.Context => scope.identity == identity index) ∘ context) =
        live.reverse.eraseP (· == index) := by
    apply eraseP_congr
    intro other member
    have here := List.mem_reverse.mp member
    by_cases same : other = index
    · simp [same, named index (same ▸ here)]
    · have differs : identity other ≠ identity index := fun equal => same (apart other here equal)
      simp [same, named other here, differs]
  rw [Scopes.close_of, ← List.map_reverse, List.eraseP_map, place, ← List.erase_eq_eraseP',
    ← List.map_reverse, reversed.erase_eq_filter, nodup.erase_eq_filter, List.filter_reverse]

end Keyed

namespace State

def contextOf (state : State) (index : Nat) : Telemetry.Context :=
  ((state.spans[index]?).map (·.context)).getD .empty

def identityOf (state : State) (index : Nat) : Telemetry.Identity :=
  (state.contextOf index).identity

def recordingOf (state : State) (index : Nat) : Option Telemetry.Recording :=
  ((state.spans[index]?).bind (·.context.span)).bind state.recorder.recorded?

def handleOf (start : State) (provider : Telemetry.Provider) (index : Nat) : Telemetry.Handle where
  provider := start.context.provider
  number := provider.started + (index - start.spans.length)

theorem contextOf_adding_new (state : State) (span : Span) :
    (state.adding span).contextOf state.spans.length = span.context := by
  have stored : (state.adding span).spans[state.spans.length]? = some span :=
    List.getElem?_concat_length
  unfold contextOf
  rw [stored]
  rfl

theorem contextOf_adding_old {index : Nat} (state : State) (span : Span)
    (below : index < state.spans.length) :
    (state.adding span).contextOf index = state.contextOf index := by
  have stored : (state.adding span).spans[index]? = state.spans[index]? :=
    List.getElem?_append_left below
  unfold contextOf
  rw [stored]

theorem contextOf_mark (state : State) (index : Nat) :
    contextOf { state with spans := state.spans.modify index ({ · with isAsync := true }) } =
      state.contextOf := by
  funext other
  unfold contextOf
  dsimp only
  by_cases same : index = other
  · rw [same, List.getElem?_modify_eq]
    cases state.spans[other]? <;> rfl
  · rw [List.getElem?_modify_ne _ _ same]

end State

variable {start state : State} {provider latest : Telemetry.Provider} {ledger : Ledger}
  {begun : List Telemetry.Provider.Begun} {ended : List Nat} {index total : Nat} {now : Int}

/-- How a span of the run is kept: in the context of a span that telemetry began, and marked as the
ledger says. -/
structure Entry (start : State) (provider : Telemetry.Provider)
    (begun : List Telemetry.Provider.Begun) (state : State) (ledger : Ledger) (index : Nat)
    (span : Span) (known : Telemetry.Provider.Begun) : Prop where
  stored : state.spans[index]? = some span
  async : span.isAsync = decide (index ∈ ledger.marked)
  listed : begun[index - start.spans.length]? = some known
  context : span.context = ⟨some ⟨known.identity, some (start.handleOf provider index)⟩⟩

def shown (entry : Telemetry.Export) : Telemetry.Identity × Int :=
  (entry.recording.identity, entry.finish)

/-- What the provider was asked for agrees with the ledger. -/
structure Recorded (start : State) (provider : Telemetry.Provider)
    (begun : List Telemetry.Provider.Begun) (ended : List Nat) (latest : Telemetry.Provider)
    (state : State) (ledger : Ledger) : Prop where
  next : ledger.next = state.spans.length
  places : start.spans.length + begun.length = ledger.next
  found : state.recorder.providers[start.context.provider]? = some latest
  works : provider.Works begun ended latest
  entries : ∀ index, start.spans.length ≤ index → index < ledger.next →
    ∃ span known, Entry start provider begun state ledger index span known
  marked : ∀ index ∈ ledger.marked, index < ledger.next
  done : ∀ entry ∈ ledger.ended, start.spans.length ≤ entry.1 ∧ entry.1 < ledger.next
  once : (ledger.ended.map (·.1)).Nodup
  agree : ∀ index, start.spans.length ≤ index →
    (index - start.spans.length ∈ ended ↔ index ∈ ledger.ended.map (·.1))
  exports : ∃ exported, latest.view.exports = provider.view.exports ++ exported ∧
    exported.map shown = ledger.ended.map fun entry => (state.identityOf entry.1, entry.2)

/-- The running spans and the scopes of the thread are those of the ledger. -/
structure Tracked (start state : State) (ledger : Ledger) : Prop where
  provider : state.context.provider = start.context.provider
  ordered : ledger.live.Pairwise (· < ·)
  within : ∀ index ∈ ledger.live, start.spans.length ≤ index ∧ index < ledger.next
  running : state.context.running = ledger.live.map fun index => (state.identityOf index, index)
  scopes : state.scopes = .of (ledger.live.map state.contextOf).reverse

namespace Entry

variable {span : Span} {known : Telemetry.Provider.Begun}

theorem contextOf (entry : Entry start provider begun state ledger index span known) :
    state.contextOf index = ⟨some ⟨known.identity, some (start.handleOf provider index)⟩⟩ := by
  unfold State.contextOf
  rw [entry.stored, Option.map_some, Option.getD_some, entry.context]

theorem identityOf (entry : Entry start provider begun state ledger index span known) :
    state.identityOf index = known.identity := by
  unfold State.identityOf
  rw [entry.contextOf]
  rfl

theorem telemetry (entry : Entry start provider begun state ledger index span known) :
    (state.spans[index]?).bind (·.context.span) =
      some ⟨known.identity, some (start.handleOf provider index)⟩ := by
  rw [entry.stored, Option.bind_some, entry.context]

theorem congr {later : State} {after : Ledger}
    (entry : Entry start provider begun state ledger index span known)
    (spans : later.spans = state.spans) (marked : after.marked = ledger.marked) :
    Entry start provider begun later after index span known where
  stored := by rw [spans, entry.stored]
  async := by rw [marked, entry.async]
  listed := entry.listed
  context := entry.context

theorem append {later : State} {after : Ledger} {more : List Span}
    {others : List Telemetry.Provider.Begun}
    (entry : Entry start provider begun state ledger index span known)
    (spans : later.spans = state.spans ++ more) (marked : after.marked = ledger.marked) :
    Entry start provider (begun ++ others) later after index span known where
  stored := by
    obtain ⟨bound, _⟩ := List.getElem?_eq_some_iff.mp entry.stored
    rw [spans, List.getElem?_append_left bound, entry.stored]
  async := by rw [marked, entry.async]
  listed := by
    obtain ⟨bound, _⟩ := List.getElem?_eq_some_iff.mp entry.listed
    rw [List.getElem?_append_left bound, entry.listed]
  context := entry.context

end Entry

namespace Recorded

theorem grown (recorded : Recorded start provider begun ended latest state ledger) :
    start.spans.length ≤ ledger.next := by
  have places := recorded.places
  omega

theorem finish_found (recorded : Recorded start provider begun ended latest state ledger)
    {span : Span} {known : Telemetry.Provider.Begun}
    (entry : Entry start provider begun state ledger index span known) (now : Int) :
    ∃ recorder : Telemetry.Recorder, state.finishSpan now index = { state with recorder } ∧
      recorder.providers[start.context.provider]? =
        some (latest.after
          (.finish (provider.started + (index - start.spans.length)) now)) := by
  unfold State.finishSpan
  rw [entry.telemetry]
  refine ⟨_, rfl, ?_⟩
  change (state.recorder.providers.modify start.context.provider _)[start.context.provider]? = _
  rw [List.getElem?_modify_eq, recorded.found]
  rfl

/-- Ending a span of the run exports it unless it ended before. -/
theorem finish (recorded : Recorded start provider begun ended latest state ledger)
    (supplies : provider.Supplies total) (enough : begun.length ≤ total)
    (within : start.spans.length ≤ index) (now : Int) :
    ∃ ended latest, Recorded start provider begun ended latest (state.finishSpan now index)
      (ledger.finish index now) := by
  have places := recorded.places
  unfold Ledger.finish
  by_cases created : index < ledger.next
  · obtain ⟨span, known, entry⟩ := recorded.entries index within created
    obtain ⟨recorder, same, found⟩ := recorded.finish_found entry now
    obtain ⟨exported, exports, shows⟩ := recorded.exports
    have own : index - start.spans.length < begun.length := by omega
    rw [same]
    refine ⟨ended ++ [index - start.spans.length],
      latest.after (.finish (provider.started + (index - start.spans.length)) now), ?_⟩
    by_cases done : index ∈ ledger.ended.map (·.1)
    · -- The span ended before, so nothing is exported.
      rw [if_neg fun both => both.2 done]
      have again := (recorded.agree index within).mpr done
      refine ⟨recorded.next, places, found, recorded.works.finish now own, ?_, recorded.marked,
        recorded.done, recorded.once, fun other here => ?_, exported, ?_, shows⟩
      · intro other here below
        obtain ⟨span, known, old⟩ := recorded.entries other here below
        exact ⟨span, known, old.congr rfl rfl⟩
      · rw [← recorded.agree other here, List.mem_append, List.mem_singleton]
        exact ⟨fun listed => listed.elim id (· ▸ again), .inl⟩
      · rw [supplies.once recorded.works enough _ again now]
        exact exports
    · rw [if_pos ⟨created, done⟩]
      have fresh := mt (recorded.agree index within).mp done
      obtain ⟨recording, identity, more⟩ :=
        supplies.exports recorded.works enough _ known entry.listed fresh now
      refine ⟨recorded.next, places, found, recorded.works.finish now own, ?_, recorded.marked,
        ?_, ?_, fun other here => ?_, exported ++ [⟨recording, now⟩], ?_, ?_⟩
      · intro other here below
        obtain ⟨span, known, old⟩ := recorded.entries other here below
        exact ⟨span, known, old.congr rfl rfl⟩
      · intro later member
        rcases List.mem_append.mp member with member | member
        · exact recorded.done later member
        · rw [List.mem_singleton.mp member]
          exact ⟨within, created⟩
      · rw [List.map_append]
        exact List.Nodup.append recorded.once (List.nodup_singleton _)
          (List.disjoint_singleton.mpr done)
      · have place : other - start.spans.length = index - start.spans.length ↔ other = index := by
          omega
        rw [List.map_append, List.mem_append, List.mem_append, recorded.agree other here,
          List.mem_singleton, List.map_singleton, List.mem_singleton, place]
      · rw [more, exports, List.append_assoc]
      · rw [List.map_append, List.map_append, shows]
        change _ ++ [(recording.identity, now)] = _ ++ [(state.identityOf index, now)]
        rw [entry.identityOf, identity]
        rfl
  · refine ⟨ended, latest, ?_⟩
    unfold State.finishSpan
    rw [if_neg fun both => created both.1,
      List.getElem?_eq_none (by rw [← recorded.next]; omega)]
    exact recorded

theorem prepare (recorded : Recorded start provider begun ended latest state ledger)
    (index : Nat) :
    Recorded start provider begun ended latest
      { state with spans := state.spans.modify index ({ · with isAsync := true }) }
      (ledger.prepare index) := by
  have next := ledger.next_prepare index
  have done := ledger.ended_prepare index
  constructor
  · rw [next, recorded.next]
    exact (List.length_modify _ _ _).symm
  · rw [next]
    exact recorded.places
  · exact recorded.found
  · exact recorded.works
  · intro other here below
    rw [next] at below
    obtain ⟨span, known, old⟩ := recorded.entries other here below
    by_cases same : index = other
    · subst same
      refine ⟨{ span with isAsync := true }, known, ?_, ?_, old.listed, old.context⟩
      · rw [List.getElem?_modify_eq, old.stored]
        rfl
      · simp [Ledger.prepare, below]
    · have apart : other ≠ index := fun equal => same equal.symm
      refine ⟨span, known, ?_, ?_, old.listed, old.context⟩
      · exact (List.getElem?_modify_ne _ _ same).trans old.stored
      · rw [old.async]
        unfold Ledger.prepare
        split
        · simp [apart]
        · rfl
  · intro other member
    rw [next]
    unfold Ledger.prepare at member
    split at member
    next below =>
      rcases List.mem_cons.mp member with rfl | member
      · exact below
      · exact recorded.marked other member
    next => exact recorded.marked other member
  · rw [next, done]
    exact recorded.done
  · rw [done]
    exact recorded.once
  · rw [done]
    exact recorded.agree
  · rw [done]
    simpa only [State.identityOf, State.contextOf_mark] using recorded.exports

/-- Of the spans of the run, those from before keep their entries, and a span that telemetry began
behind them has the next one. -/
theorem entries_adding (recorded : Recorded start provider begun ended latest state ledger)
    {recorder : Telemetry.Recorder} {role : Role} {next : Telemetry.Provider.Begun}
    {telemetry : Telemetry.Span} (identity : telemetry.identity = next.identity)
    (handle : telemetry.handle = some (start.handleOf provider ledger.next)) :
    ∀ index, start.spans.length ≤ index → index < ledger.create.next →
      ∃ span known, Entry start provider (begun ++ [next])
        (State.adding { state with recorder } (.keeping role telemetry)) ledger.create index
        span known := by
  intro index here below
  have places := recorded.places
  rcases Nat.lt_succ_iff_lt_or_eq.mp below with old | rfl
  · obtain ⟨span, known, entry⟩ := recorded.entries index here old
    exact ⟨span, known, entry.append rfl rfl⟩
  · have place : ledger.next - start.spans.length = begun.length := by omega
    have unmarked : ledger.next ∉ ledger.marked := fun member =>
      Nat.lt_irrefl _ (recorded.marked _ member)
    refine ⟨.keeping role telemetry, next, ?_, (decide_eq_false unmarked).symm, ?_, ?_⟩
    · rw [recorded.next]
      exact List.getElem?_concat_length
    · rw [place]
      exact List.getElem?_concat_length
    · rw [← identity, ← handle]
      rfl

/-- The next span gets an identity of its own and an entry, and a recording that names the current
span as its parent. -/
theorem create (recorded : Recorded start provider begun ended latest state ledger)
    (owner : state.context.provider = start.context.provider) (supplies : provider.Supplies total)
    (room : begun.length < total)
    (under : ∀ span, state.scopes.current.span = some span →
      span.identity ∈ begun.map (·.identity))
    (now : Int) (role : Role) (name peer : String) :
    (state.drawn now role name peer).2.identity.isValid ∧
      (state.drawn now role name peer).2.identity ∉ begun.map (·.identity) ∧
      (∃ recording, (state.drawn now role name peer).1.recorded?
          (state.drawn now role name peer).2 = some recording ∧
        recording.identity = (state.drawn now role name peer).2.identity ∧
        recording.Under (state.scopes.current.span.map (·.identity))) ∧
      ∃ later, Recorded start provider
        (begun ++ [⟨(state.drawn now role name peer).2.identity,
          state.scopes.current.span.map (·.identity)⟩]) ended later
        (State.adding { state with recorder := (state.drawn now role name peer).1 }
          (.keeping role (state.drawn now role name peer).2)) ledger.create := by
  have places := recorded.places
  obtain ⟨exported, exports, shows⟩ := recorded.exports
  have found : state.recorder.providers[state.context.provider]? = some latest :=
    owner ▸ recorded.found
  obtain ⟨span, later⟩ := State.drawn_found found now role name peer
  obtain ⟨valid, fresh⟩ :=
    supplies.fresh recorded.works room (state.request now role name) under
  have number : latest.started = provider.started + begun.length := recorded.works.started
  obtain ⟨works, quiet, recording, known, identity, named⟩ :=
    @Telemetry.Provider.Supplies.start_changes _ _ _ _ _ supplies recorded.works room
      (state.request now role name) under (State.naming role peer) _ rfl
  have length : (begun ++ [latest.begin (state.request now role name)]).length =
      begun.length + 1 := List.length_append
  rw [span]
  refine ⟨valid, fresh, ⟨recording, ?_, identity, named⟩, (latest.after (.start (state.request
    now role name))).run ((State.naming role peer).map (.change latest.started)), ?_⟩
  · unfold Telemetry.Recorder.recorded?
    dsimp only [Option.bind_some]
    rw [later]
    exact known
  constructor
  · change ledger.next + 1 = (state.spans ++ [_]).length
    rw [recorded.next, List.length_append]
    rfl
  · change _ + (begun ++ [latest.begin (state.request now role name)]).length = ledger.next + 1
    rw [length]
    omega
  · exact owner ▸ later
  · exact works
  · refine recorded.entries_adding rfl ?_
    have place : ledger.next - start.spans.length = begun.length := by omega
    unfold State.handleOf
    rw [place, ← number, ← owner]
  · exact fun index member => Nat.lt_succ_of_lt (recorded.marked index member)
  · intro entry member
    have bounds := recorded.done entry member
    exact ⟨bounds.1, Nat.lt_succ_of_lt bounds.2⟩
  · exact recorded.once
  · exact recorded.agree
  · refine ⟨exported, ?_, ?_⟩
    · rw [quiet, exports]
    · rw [shows]
      apply List.map_congr_left
      intro entry member
      have below := (recorded.done entry member).2
      rw [recorded.next] at below
      exact congrArg (fun held : Telemetry.Context => (held.identity, entry.2))
        (State.contextOf_adding_old { state with recorder := _ } _ below).symm

theorem rescope (recorded : Recorded start provider begun ended latest state ledger)
    (context : Context) (scopes : Scopes) (live : List Nat) :
    Recorded start provider begun ended latest { state with context, scopes }
      { ledger with live } := by
  refine ⟨recorded.next, recorded.places, recorded.found, recorded.works, ?_, recorded.marked,
    recorded.done, recorded.once, recorded.agree, recorded.exports⟩
  intro index here below
  obtain ⟨span, known, entry⟩ := recorded.entries index here below
  exact ⟨span, known, entry.congr rfl rfl⟩

theorem identityOf_inj {other : Nat}
    (recorded : Recorded start provider begun ended latest state ledger)
    (supplies : provider.Supplies total) (enough : begun.length ≤ total)
    (first : start.spans.length ≤ index) (second : start.spans.length ≤ other)
    (below : index < ledger.next) (last : other < ledger.next)
    (same : state.identityOf index = state.identityOf other) : index = other := by
  obtain ⟨_, one, entry⟩ := recorded.entries index first below
  obtain ⟨_, two, later⟩ := recorded.entries other second last
  obtain ⟨nodup, _⟩ := supplies.identities recorded.works enough
  rw [entry.identityOf, later.identityOf] at same
  have listed : (begun.map (·.identity))[index - start.spans.length]? =
      (begun.map (·.identity))[other - start.spans.length]? := by
    rw [List.getElem?_map, List.getElem?_map, entry.listed, later.listed, Option.map_some,
      Option.map_some, same]
  obtain ⟨bound, _⟩ := List.getElem?_eq_some_iff.mp entry.listed
  have place := (List.getElem?_inj (by rwa [List.length_map]) nodup).mp listed
  omega

theorem nodup_ended (recorded : Recorded start provider begun ended latest state ledger)
    (supplies : provider.Supplies total) (enough : begun.length ≤ total) :
    ((ledger.ended.map (·.1)).map state.identityOf).Nodup := by
  refine List.Nodup.map_on ?_ recorded.once
  intro index member other also same
  obtain ⟨_, here, rfl⟩ := List.mem_map.mp member
  obtain ⟨_, there, rfl⟩ := List.mem_map.mp also
  obtain ⟨first, below⟩ := recorded.done _ here
  obtain ⟨second, last⟩ := recorded.done _ there
  exact recorded.identityOf_inj supplies enough first second below last same

end Recorded

theorem Tracked.congr {other : State} {after : Ledger} (tracked : Tracked start state ledger)
    (context : other.context = state.context) (scopes : other.scopes = state.scopes)
    (contexts : other.contextOf = state.contextOf) (live : after.live = ledger.live)
    (next : after.next = ledger.next) : Tracked start other after := by
  have identities : other.identityOf = state.identityOf := by
    funext index
    unfold State.identityOf
    rw [contexts]
  constructor
  · rw [context]
    exact tracked.provider
  · rw [live]
    exact tracked.ordered
  · rw [live, next]
    exact tracked.within
  · rw [context, live, identities]
    exact tracked.running
  · rw [scopes, live, contexts]
    exact tracked.scopes

theorem Tracked.current (tracked : Tracked start state ledger) :
    state.scopes.current = (ledger.live.getLast?.map state.contextOf).getD .empty := by
  rw [tracked.scopes, Scopes.current_of, List.head?_reverse, List.getLast?_map]

/-- A span that is not the current one gets a scope of its own. -/
theorem Tracked.adding {span : Span} (tracked : Tracked start state ledger)
    (next : ledger.next = state.spans.length)
    (other : state.scopes.current.identity ≠ span.identity) {recorder : Telemetry.Recorder}
    (grown : start.spans.length ≤ ledger.next) :
    Tracked start (State.adding { state with recorder } span) ledger.create := by
  have old : ∀ index ∈ ledger.live,
      (State.adding { state with recorder } span).contextOf index = state.contextOf index := by
    intro index member
    have below := (tracked.within index member).2
    rw [next] at below
    exact State.contextOf_adding_old { state with recorder } span below
  have new : (State.adding { state with recorder } span).contextOf ledger.next = span.context := by
    rw [next]
    exact State.contextOf_adding_new { state with recorder } span
  constructor
  · exact tracked.provider
  · refine List.pairwise_append.mpr ⟨tracked.ordered, List.pairwise_singleton _ _, ?_⟩
    intro index member last same
    rw [List.mem_singleton.mp same]
    exact (tracked.within index member).2
  · intro index member
    rcases List.mem_append.mp member with member | member
    · have bounds := tracked.within index member
      exact ⟨bounds.1, Nat.lt_succ_of_lt bounds.2⟩
    · rw [List.mem_singleton.mp member]
      exact ⟨grown, Nat.lt_succ_self _⟩
  · change state.context.running ++ [(span.identity, state.spans.length)] =
      (ledger.live ++ [ledger.next]).map _
    rw [tracked.running, List.map_append]
    congr 1
    · apply List.map_congr_left
      intro index member
      unfold State.identityOf
      rw [old index member]
    · rw [← next]
      unfold State.identityOf
      rw [List.map_singleton, new]
      rfl
  · change state.scopes.openFor span.context = .of ((ledger.live ++ [ledger.next]).map _).reverse
    have apart : (Scopes.of (ledger.live.map state.contextOf).reverse).current.identity ≠
        span.context.identity := tracked.scopes ▸ other
    rw [List.map_append, List.reverse_append, List.map_singleton, new, List.map_congr_left old,
      tracked.scopes, Scopes.openFor_of, if_neg apart]
    rfl

theorem Tracked.closing (tracked : Tracked start state ledger) (index : Nat)
    (apart : ∀ other ∈ ledger.live, state.identityOf other = state.identityOf index →
      other = index) :
    state.context.running.filter (·.1 != state.identityOf index) =
        (ledger.live.erase index).map (fun other => (state.identityOf other, other)) ∧
      state.scopes.close (state.identityOf index) =
        .of ((ledger.live.erase index).map state.contextOf).reverse := by
  have nodup : ledger.live.Nodup := tracked.ordered.imp fun before => Nat.ne_of_lt before
  constructor
  · rw [tracked.running]
    exact filter_running nodup apart
  · rw [tracked.scopes]
    exact close_scopes nodup (fun _ _ => rfl) apart

structure Kept (start : State) (provider : Telemetry.Provider) (state : State) (ledger : Ledger) :
    Prop where
  recorded : ∃ begun ended latest, Recorded start provider begun ended latest state ledger
  tracked : Tracked start state ledger

theorem finishSpan_eq (state : State) (now : Int) (index : Nat) :
    ∃ recorder, state.finishSpan now index = { state with recorder } := by
  unfold State.finishSpan
  split
  · exact ⟨_, rfl⟩
  · exact ⟨state.recorder, rfl⟩

/-- Ending a span that is stopped is a matter of telemetry alone. -/
theorem Recorded.finish_stopped {span : Span} {known : Telemetry.Provider.Begun}
    (recorded : Recorded start provider begun ended latest state ledger)
    (entry : Entry start provider begun state ledger index span known)
    (supplies : provider.Supplies total) (enough : begun.length ≤ total)
    (within : start.spans.length ≤ index) (now : Int) :
    ∃ recorder, (if span.isAsync then state else state.finishSpan now index) =
        { state with recorder } ∧
      ∃ ended latest, Recorded start provider begun ended latest { state with recorder }
        (if index ∈ ledger.marked then ledger else ledger.finish index now) := by
  rw [entry.async]
  by_cases marked : index ∈ ledger.marked
  · exact ⟨state.recorder, by simp [marked], ended, latest, by simpa [marked] using recorded⟩
  · obtain ⟨recorder, same⟩ := finishSpan_eq state now index
    obtain ⟨done, after, finished⟩ := recorded.finish supplies enough within now
    rw [same] at finished
    exact ⟨recorder, by simp [marked, same], done, after, by simpa [marked] using finished⟩

section Current

variable (recorded : Recorded start provider begun ended latest state ledger)
  (tracked : Tracked start state ledger)
include recorded tracked

/-- The current span is the last one that was created and not stopped yet. -/
theorem Recorded.last (span : Telemetry.Span) (current : state.scopes.current.span = some span) :
    ∃ index held known, ledger.live.getLast? = some index ∧ start.spans.length ≤ index ∧
      index < ledger.next ∧ Entry start provider begun state ledger index held known ∧
      span.identity = known.identity := by
  rw [tracked.current] at current
  cases last : ledger.live.getLast? with
  | none =>
    rw [last] at current
    cases current
  | some index =>
    obtain ⟨within, below⟩ := tracked.within index (List.mem_of_getLast? last)
    obtain ⟨held, known, entry⟩ := recorded.entries index within below
    rw [last, Option.map_some, Option.getD_some, entry.contextOf] at current
    cases current
    exact ⟨index, held, known, rfl, within, below, entry, rfl⟩

theorem Recorded.under (span : Telemetry.Span) (current : state.scopes.current.span = some span) :
    span.identity ∈ begun.map (·.identity) := by
  obtain ⟨_, _, known, _, _, _, entry, same⟩ := recorded.last tracked span current
  rw [same]
  exact List.mem_map_of_mem (List.mem_of_getElem? entry.listed)

theorem Recorded.parent : state.scopes.current.span.map (·.identity) =
    ledger.live.getLast?.map state.identityOf := by
  cases current : state.scopes.current.span with
  | some span =>
    obtain ⟨index, _, _, last, _, _, entry, same⟩ := recorded.last tracked span current
    rw [last, Option.map_some, Option.map_some, entry.identityOf, same]
  | none =>
    have shown := tracked.current
    cases last : ledger.live.getLast? with
    | none => rfl
    | some index =>
      obtain ⟨within, below⟩ := tracked.within index (List.mem_of_getLast? last)
      obtain ⟨_, _, entry⟩ := recorded.entries index within below
      rw [last, Option.map_some, Option.getD_some, entry.contextOf] at shown
      rw [shown] at current
      cases current

theorem Recorded.apart (supplies : provider.Supplies total) (enough : begun.length ≤ total)
    (within : start.spans.length ≤ index) (below : index < ledger.next) :
    ∀ other ∈ ledger.live, state.identityOf other = state.identityOf index → other = index := by
  intro other member same
  obtain ⟨first, last⟩ := tracked.within other member
  exact recorded.identityOf_inj supplies enough first within last below same

theorem Recorded.mem_identities (member : index ∈ ledger.live) :
    state.identityOf index ∈ begun.map (·.identity) := by
  obtain ⟨within, below⟩ := tracked.within index member
  obtain ⟨_, known, entry⟩ := recorded.entries index within below
  rw [entry.identityOf]
  exact List.mem_map_of_mem (List.mem_of_getElem? entry.listed)

theorem Recorded.active (supplies : provider.Supplies total) (enough : begun.length ≤ total) :
    state.activeSpan = ledger.active := by
  have current := tracked.current
  unfold Ledger.active
  cases last : ledger.live.getLast? with
  | none =>
    unfold State.activeSpan Scopes.currentIdentity?
    rw [current, last]
    rfl
  | some index =>
    rw [last] at current
    have member := List.mem_of_getLast? last
    obtain ⟨within, below⟩ := tracked.within index member
    have identity : state.scopes.current.identity = state.identityOf index :=
      congrArg Telemetry.Context.identity current
    obtain ⟨known, listed, same⟩ := List.mem_map.mp (recorded.mem_identities tracked member)
    rw [State.activeSpan_eq_ok, identity, tracked.running]
    refine ⟨?_, lookup_running member (recorded.apart tracked supplies enough within below)⟩
    rw [← same]
    exact (supplies.identities recorded.works enough).2 known listed

theorem Recorded.current_ne {identity : Telemetry.Identity} (valid : identity.isValid)
    (fresh : identity ∉ begun.map (·.identity)) : state.scopes.current.identity ≠ identity := by
  intro same
  cases current : state.scopes.current.span with
  | none =>
    rw [← same] at valid
    unfold Telemetry.Context.identity at valid
    rw [current] at valid
    cases valid
  | some span =>
    have member := recorded.under tracked span current
    refine fresh ?_
    rw [← same]
    unfold Telemetry.Context.identity
    rw [current]
    exact member

end Current

namespace Kept

theorem begin (idle : start.context.running = []) (closed : start.scopes = .of [])
    (found : start.recorder.providers[start.context.provider]? = some provider) :
    Kept start provider start { next := start.spans.length } := by
  refine ⟨⟨[], [], provider, rfl, rfl, found, .begin, ?_, nofun, nofun, List.nodup_nil,
    fun _ _ => ⟨nofun, nofun⟩, [], (List.append_nil _).symm, rfl⟩,
    ⟨rfl, List.Pairwise.nil, nofun, idle, closed⟩⟩
  intro index first below
  exact absurd below (Nat.not_lt.mpr first)

variable (kept : Kept start provider state ledger)
include kept

theorem grown : start.spans.length ≤ ledger.next := by
  obtain ⟨_, _, _, recorded⟩ := kept.recorded
  exact recorded.grown

theorem finish (supplies : provider.Supplies total)
    (enough : ledger.next - start.spans.length ≤ total) (within : start.spans.length ≤ index)
    (now : Int) : Kept start provider (state.finishSpan now index) (ledger.finish index now) := by
  obtain ⟨begun, ended, latest, recorded⟩ := kept.recorded
  have places := recorded.places
  obtain ⟨done, after, finished⟩ := recorded.finish supplies (by omega) within now
  refine ⟨⟨begun, done, after, finished⟩, ?_⟩
  obtain ⟨recorder, same⟩ := finishSpan_eq state now index
  rw [same]
  exact kept.tracked.congr rfl rfl rfl (ledger.live_finish index now) (ledger.next_finish index now)

theorem prepare (index : Nat) :
    Kept start provider
      { state with spans := state.spans.modify index ({ · with isAsync := true }) }
      (ledger.prepare index) := by
  obtain ⟨begun, ended, latest, recorded⟩ := kept.recorded
  exact ⟨⟨begun, ended, latest, recorded.prepare index⟩,
    kept.tracked.congr rfl rfl (state.contextOf_mark index) (ledger.live_prepare index)
      (ledger.next_prepare index)⟩

theorem active (supplies : provider.Supplies total)
    (enough : ledger.next - start.spans.length ≤ total) : state.activeSpan = ledger.active := by
  obtain ⟨_, _, _, recorded⟩ := kept.recorded
  have places := recorded.places
  exact recorded.active kept.tracked supplies (by omega)

theorem create (supplies : provider.Supplies total)
    (room : ledger.next - start.spans.length < total) (now : Int) (role : Role)
    (name peer : String) :
    ∃ next recording, state.startAs now role name peer = (next, .ok ledger.next) ∧
      Kept start provider next ledger.create ∧
      next.recordingOf ledger.next = some recording ∧
      recording.identity = next.identityOf ledger.next ∧
      recording.Under (ledger.live.getLast?.map state.identityOf) := by
  obtain ⟨begun, ended, latest, recorded⟩ := kept.recorded
  have tracked := kept.tracked
  have places := recorded.places
  obtain ⟨valid, fresh, ⟨recording, found, identity, under⟩, later, created⟩ :=
    recorded.create tracked.provider supplies (by omega) (recorded.under tracked) now role name peer
  have unused : state.context.running.lookup (state.drawn now role name peer).2.identity =
      none := by
    rw [tracked.running, List.lookup_eq_none_iff]
    intro entry member
    obtain ⟨index, here, rfl⟩ := List.mem_map.mp member
    refine bne_iff_ne.mpr fun same => fresh ?_
    rw [same]
    exact recorded.mem_identities tracked here
  have other := recorded.current_ne tracked valid fresh
  have started := State.startAs_ok valid unused
  rw [← recorded.next] at started
  have stored := State.contextOf_adding_new
    { state with recorder := (state.drawn now role name peer).1 }
    (.keeping role (state.drawn now role name peer).2)
  refine ⟨_, recording, started, ⟨⟨_, _, later, created⟩, tracked.adding recorded.next
    (show _ ≠ (Span.keeping role _).identity from other) recorded.grown⟩, ?_, ?_,
    recorded.parent tracked ▸ under⟩
  · unfold State.recordingOf State.adding
    dsimp only
    rw [recorded.next, List.getElem?_concat_length]
    exact found
  · unfold State.identityOf
    rw [recorded.next, stored]
    exact identity

/-- Stopping a span of the run ends it unless it completes asynchronously, and takes it from the
running ones. -/
theorem stop (supplies : provider.Supplies total)
    (enough : ledger.next - start.spans.length ≤ total) (within : start.spans.length ≤ index)
    (now : Int) :
    Kept start provider (state.stopSpan now index).1 (ledger.stop index now) ∧
      (state.stopSpan now index).2 = (ledger.live.erase index).isEmpty := by
  obtain ⟨begun, ended, latest, recorded⟩ := kept.recorded
  have tracked := kept.tracked
  have running := tracked.running
  have places := recorded.places
  by_cases created : index < ledger.next
  · obtain ⟨span, known, entry⟩ := recorded.entries index within created
    obtain ⟨remains, closed⟩ :=
      tracked.closing index (recorded.apart tracked supplies (by omega) within created)
    have identity : span.identity = state.identityOf index := by
      unfold State.identityOf State.contextOf
      rw [entry.stored]
      rfl
    obtain ⟨recorder, same, done, after, finished⟩ :=
      recorded.finish_stopped entry supplies (by omega) within now
    unfold State.stopSpan
    rw [entry.stored]
    dsimp only
    rw [same, identity, remains, List.isEmpty_map]
    refine ⟨⟨⟨begun, done, after, finished.rescope _ _ _⟩, ?_⟩, rfl⟩
    have next : (ledger.stop index now).next = ledger.next := ledger.next_stop index now
    constructor
    · exact tracked.provider
    · exact tracked.ordered.sublist List.erase_sublist
    · intro other member
      rw [next]
      exact tracked.within other (List.mem_of_mem_erase member)
    · rfl
    · change (if _ then (state.scopes.close _).closeAll else state.scopes.close _) =
        .of ((ledger.live.erase index).map state.contextOf).reverse
      rw [closed]
      split
      next idle =>
        rw [Scopes.closeAll_of, List.isEmpty_iff.mp idle]
        rfl
      next => rfl
  · -- A place without a span is stopped in vain.
    have absent : state.spans[index]? = none :=
      List.getElem?_eq_none (by rw [← recorded.next]; omega)
    have unmarked : index ∉ ledger.marked := fun member =>
      created (recorded.marked index member)
    have idle : index ∉ ledger.live := fun member => created (tracked.within index member).2
    have unchanged : ledger.stop index now = ledger := by
      unfold Ledger.stop Ledger.finish
      rw [if_neg unmarked, if_neg fun both => created both.1, List.erase_of_not_mem idle]
    unfold State.stopSpan
    rw [absent, unchanged, List.erase_of_not_mem idle, running, List.isEmpty_map]
    exact ⟨kept, rfl⟩

end Kept

end TraceAgent.Zipkin
