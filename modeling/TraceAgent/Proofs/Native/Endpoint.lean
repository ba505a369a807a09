import TraceAgent.Proofs.Native.Injection
import TraceAgent.Proofs.Native.SpanTree

/-! The span that a call or a snapshot names as its endpoint.

A context keeps one number for the span that stands for its open segment. Told
from what was seen of the run it is the first entry span that was created in
the segment, and the first span as long as no entry span was created. What
becomes of this span later does not matter, but its name is read when it is
needed.
-/

set_option autoImplicit false

namespace TraceAgent.Native

open Segment Propagation

namespace Chronicle

variable {chronicle : Chronicle}

def createdHere (chronicle : Chronicle) : List Creation :=
  chronicle.createdIn chronicle.journal.reports.length

/-- The first entry span that was created in the open segment, or the first span if there was no
entry span. -/
def primary? (chronicle : Chronicle) : Option Creation :=
  (chronicle.createdHere.find? (·.role == .entry)).or chronicle.createdHere.head?

theorem created_subset (journal : Journal) (step : Step) :
    ∀ creation ∈ created journal step, creation.birth ∈ (journal.step step).births := by
  intro creation member
  unfold created at member
  split at member
  · obtain ⟨birth, listed, rfl⟩ := List.mem_map.mp member
    exact List.mem_of_mem_drop listed
  · cases member

/-- Every creation is one that the journal noted. -/
theorem creations_noted (config : AgentConfig) (moment : Moment) (steps : List Step) :
    ∀ creation ∈ ((Chronicle.begin config moment).run steps).creations,
      creation.birth ∈ ((Chronicle.begin config moment).run steps).journal.births := by
  have start : ∀ creation ∈ (Chronicle.begin config moment).creations,
      creation.birth ∈ (Chronicle.begin config moment).journal.births := fun _ => (nomatch ·)
  generalize Chronicle.begin config moment = chronicle at start
  induction steps generalizing chronicle with
  | nil => exact start
  | cons step steps ih =>
    refine ih (chronicle.step step) fun creation member => ?_
    rcases List.mem_append.mp member with before | new
    · exact List.mem_append_left _ (start creation before)
    · exact created_subset chronicle.journal step creation new

/-- The creations in the open segment are its spans, under their numbers. -/
structure Lists (chronicle : Chronicle) : Prop where
  roles : chronicle.createdHere.map Creation.role =
    chronicle.journal.context.spans.map Span.role
  keys : ∀ (number : Nat) (creation : Creation), chronicle.createdHere[number]? = some creation →
    creation.birth.key = chronicle.journal.context.keyOf number

theorem Faithful.lists (faithful : chronicle.Faithful)
    (noted : ∀ creation ∈ chronicle.creations, creation.birth ∈ chronicle.journal.births) :
    chronicle.Lists := by
  have places := faithful.places chronicle.journal.reports.length
  have ordinal := faithful.consistent.ordinal
  constructor
  · have roles := congrArg (List.map fun place : Int × Int × Role => place.2.2) places
    rw [List.map_map] at roles
    refine roles.trans ?_
    rw [← ordinal, Context.descents_open]
    refine List.ext_getElem (by simp) fun number _ _ => ?_
    simp [Descent.place, Span.descent]
  · intro number creation found
    have member := List.mem_of_getElem? found
    have home : creation.birth.home = chronicle.journal.reports.length :=
      of_decide_eq_true (List.mem_filter.mp member).2
    have inBirths := noted creation (List.mem_filter.mp member).1
    have place := congrArg (·[number]?) places
    simp only [List.getElem?_map, List.getElem?_mapIdx] at place
    rw [show chronicle.createdIn _ = chronicle.createdHere from rfl, found] at place
    obtain ⟨descent, _, same⟩ := Option.map_eq_some_iff.mp place.symm
    have index : creation.birth.key.index = number := Int.ofNat.inj (congrArg (·.1) same).symm
    have segment : creation.birth.key.segment = chronicle.journal.context.past.length := by
      rw [← faithful.consistent.homes _ inBirths, home, ordinal]
    unfold Context.keyOf
    rw [← index, ← segment]

/-- The foremost span of the open segment is the primary creation. -/
theorem Lists.primary?_eq (lists : chronicle.Lists) :
    chronicle.primary? = (foremost chronicle.journal.context.spans).bind fun number =>
      chronicle.createdHere[number]? := by
  have entries : chronicle.createdHere.findIdx? (·.role == .entry) =
      chronicle.journal.context.spans.findIdx? Span.isEntry := by
    have first := congrArg (List.findIdx? (· == Role.entry)) lists.roles
    rwa [List.findIdx?_map, List.findIdx?_map] at first
  have size := congrArg List.length lists.roles
  rw [List.length_map, List.length_map] at size
  unfold primary? foremost
  rw [List.find?_eq_bind_findIdx?_getElem?, entries]
  cases entry : chronicle.journal.context.spans.findIdx? Span.isEntry with
  | some number =>
    have bound := (List.findIdx?_eq_some_iff_getElem.mp entry).1
    rw [← size] at bound
    simp [List.getElem?_eq_getElem bound]
  | none =>
    cases spans : chronicle.journal.context.spans with
    | nil =>
      rw [spans] at size
      simp [List.eq_nil_of_length_eq_zero size]
    | cons span rest => simp [List.head?_eq_getElem?]

/-- The text is the name that the primary span of the open segment has now. -/
def NamesPrimary (chronicle : Chronicle) (endpoint : String) : Prop :=
  ∃ creation span, chronicle.primary? = some creation ∧
    chronicle.journal.context.span? creation.birth.key = some span ∧ endpoint = span.name

theorem Lists.namesPrimary (lists : chronicle.Lists) {opened : OpenSegment}
    (current : chronicle.journal.context.current = some opened) (fronted : opened.IsFronted)
    {index : Nat} {span : Span} (top : opened.top? = some (index, span)) :
    chronicle.NamesPrimary opened.endpointName := by
  obtain ⟨_, _, lookup⟩ := OpenSegment.top?_eq_some.mp top
  obtain ⟨primary, front, first, here⟩ := exists_foremost lookup
  have spans := Context.spans_of_current current
  have size := congrArg List.length lists.roles
  rw [List.length_map, List.length_map, spans] at size
  have bound : primary < chronicle.createdHere.length := size ▸ foremost_lt first
  refine ⟨chronicle.createdHere[primary], front, ?_, ?_, ?_⟩
  · rw [lists.primary?_eq, spans, first]
    exact List.getElem?_eq_getElem bound
  · rw [lists.keys primary _ (List.getElem?_eq_getElem bound), Context.span?_eq, spans]
    exact (if_pos rfl).trans here
  · unfold OpenSegment.endpointName
    rw [fronted, first, Option.bind_some, here]

/-- Whatever was done before, a snapshot and a prepared carrier name the first entry span that was
created in the open segment, or its first span if it has no entry span, by the name that this span
has now. -/
theorem run_names_primary (config : AgentConfig) (moment : Moment) (steps : List Step) :
    let chronicle := (Chronicle.begin config moment).run steps
    (∀ snapshot, chronicle.journal.context.capture = .ok snapshot →
      ∃ anchor, snapshot.anchor = some anchor ∧ chronicle.NamesPrimary anchor.endpoint) ∧
    ∀ now fresh carrier, chronicle.journal.context.inject now fresh = .ok carrier →
      chronicle.NamesPrimary carrier.origin.endpoint := by
  intro chronicle
  have lists : chronicle.Lists := ((Faithful.begin config moment).run steps).lists
    (creations_noted config moment steps)
  have fronted : chronicle.journal.context.IsFronted := by
    have same : chronicle.journal.context = (Context.begin config moment).run steps :=
      (congrArg Journal.context (journal_run _ steps)).trans (Journal.context_run _ steps)
    rw [same]
    exact Context.isFronted_run config moment steps
  constructor
  · intro snapshot captured
    obtain ⟨opened, index, span, current, top, anchor⟩ := Context.capture_eq_ok captured
    exact ⟨_, anchor, lists.namesPrimary current (fronted opened current) top⟩
  · intro now fresh carrier injected
    obtain ⟨opened, index, span, current, top, _, _, origin⟩ := Context.inject_eq_ok injected
    rw [origin]
    exact lists.namesPrimary current (fronted opened current) top

def renamedRun : List Step :=
  let moment : Moment := ⟨1, "second", "trace"⟩
  [.create .inner "work" "", .create .entry "/order" "", .create .entry "/order/pay" "",
    .stop (.own ⟨0, 1⟩), .stop (.own ⟨0, 1⟩), .prepare ⟨0, 0⟩, .stop (.own ⟨0, 0⟩),
    .create .exit "/call" "peer:80", .create .entry "/later" "",
    .annotate ⟨0, 1⟩ (.rename "/renamed"), .stop (.own ⟨0, 3⟩)].map (moment, ·)

theorem renamedRun_names_primary :
    let chronicle := (Chronicle.begin { instanceName := "instance" } ⟨0, "first", "trace"⟩).run
      renamedRun
    ∃ snapshot anchor carrier, chronicle.journal.context.capture = .ok snapshot ∧
      snapshot.anchor = some anchor ∧ chronicle.NamesPrimary anchor.endpoint ∧
      chronicle.journal.context.inject 2 {} = .ok carrier ∧
      chronicle.NamesPrimary carrier.origin.endpoint ∧
      anchor.endpoint = "/renamed" ∧ carrier.origin.endpoint = "/renamed" := by
  intro chronicle
  have names := run_names_primary { instanceName := "instance" } ⟨0, "first", "trace"⟩ renamedRun
  obtain ⟨anchor, anchored, named⟩ := names.1 _ rfl
  cases anchored
  exact ⟨_, _, _, rfl, rfl, named, rfl, names.2 2 {} _ rfl, rfl, rfl⟩

end Chronicle

end TraceAgent.Native
