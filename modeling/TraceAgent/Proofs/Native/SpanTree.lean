import Mathlib.Data.List.Perm.Basic
import TraceAgent.Proofs.Native.Accounting
import TraceAgent.Proofs.Native.Descent

/-! The spans of a reported segment form a tree.

A span finishes before the span under which it was created, so in a report each
span has its parent behind it. While no completion is outstanding a segment
stays open only under a span that is still active. Then there is one root, the
first span, which finishes last. A chronicle notes what these statements refer
to: the span that was active when each span was created, and the segments that
were open while a completion was outstanding.
-/

set_option autoImplicit false

namespace TraceAgent.Native

open Segment

/-- Each parent is an earlier span, and an entry or an exit span has a parent of another role. -/
structure Family (descents : List Descent) : Prop where
  earlier : ∀ (number : Nat) (descent : Descent) (parent : Nat),
    descents[number]? = some descent → descent.parent = some parent → parent < number
  apart : ∀ (number : Nat) (descent : Descent) (parent : Nat) (above : Descent),
    descents[number]? = some descent → descent.parent = some parent →
      descents[parent]? = some above → above.role = descent.role → descent.role = .inner

def ChildrenFirst (descents : List Descent) (order : List Nat) : Prop :=
  order.Pairwise fun first second =>
    ∀ descent, descents[second]? = some descent → descent.parent ≠ some first

structure Rooted (descents : List Descent) (order : List Nat) : Prop where
  last : descents ≠ [] → order.getLast? = some 0
  alone : ∀ number descent, descents[number]? = some descent →
    (descent.parent = none ↔ number = 0)

section Append

variable {descents : List Descent} {finished active : List Nat} {role : Role}

theorem Family.nil : Family [] where
  earlier := fun _ _ _ found => (nomatch found)
  apart := fun _ _ _ _ found => (nomatch found)

theorem Family.append (family : Family descents) {parent : Option Nat}
    (present : ∀ top, parent = some top → top < descents.length)
    (alone : ∀ top above, parent = some top → descents[top]? = some above → above.role = role →
      role = .inner) : Family (descents ++ [⟨parent, role⟩]) where
  earlier := by
    intro number descent top found under
    rw [getElem?_concat] at found
    split at found
    next last =>
      cases found
      exact last ▸ present top under
    next => exact family.earlier number descent top found under
  apart := by
    intro number descent top above found under lookup
    rw [getElem?_concat] at found
    split at found
    next =>
      cases found
      rw [List.getElem?_append_left (present top under)] at lookup
      exact alone top above under lookup
    next =>
      have before := family.earlier number descent top found under
      obtain ⟨bound, _⟩ := List.getElem?_eq_some_iff.mp found
      rw [List.getElem?_append_left (Nat.lt_trans before bound)] at lookup
      exact family.apart number descent top above found under lookup

/-- A new span under the innermost active one will finish before the active spans. -/
theorem ChildrenFirst.append (ordered : ChildrenFirst descents (finished ++ active))
    (family : Family descents)
    (numbered : (finished ++ active).Perm (List.range descents.length)) :
    ChildrenFirst (descents ++ [⟨active.head?, role⟩])
      (finished ++ descents.length :: active) := by
  have below : ∀ number ∈ finished ++ active, number < descents.length := fun number member =>
    List.mem_range.mp (numbered.mem_iff.mp member)
  have kept : ChildrenFirst (descents ++ [⟨active.head?, role⟩]) (finished ++ active) := by
    refine ordered.imp_of_mem fun {first second} _ member behind descent found => ?_
    rw [List.getElem?_append_left (below second member)] at found
    exact behind descent found
  obtain ⟨gone, stacked, across⟩ := List.pairwise_append.mp kept
  refine List.pairwise_append.mpr ⟨gone, List.pairwise_cons.mpr ⟨?_, stacked⟩, ?_⟩
  · -- An active span is older than the new one, which so is not its parent.
    intro second member descent found under
    have bound := below second (List.mem_append_right _ member)
    rw [List.getElem?_append_left bound] at found
    exact absurd (family.earlier second descent _ found under) (Nat.lt_asymm bound)
  · intro first done second member
    rcases List.mem_cons.mp member with rfl | member
    · intro descent found under
      rw [List.getElem?_concat_length] at found
      cases found
      -- The parent of the new span is active, so it is not among the finished ones.
      have nodup := numbered.nodup_iff.mpr List.nodup_range
      exact (List.nodup_append.mp nodup).2.2 first done first (List.mem_of_mem_head? under) rfl
    · exact across first done second member

theorem Rooted.nil : Rooted [] [] where
  last := fun nonempty => absurd rfl nonempty
  alone := fun _ _ found => (nomatch found)

/-- If a span is active whenever there are spans, only the first one is created without a parent,
and it stays behind all others. -/
theorem Rooted.append (rooted : Rooted descents (finished ++ active))
    (present : ∀ number ∈ active, number < descents.length)
    (busy : descents ≠ [] → active ≠ []) :
    Rooted (descents ++ [⟨active.head?, role⟩]) (finished ++ descents.length :: active) where
  last := by
    intro _
    cases active with
    | nil =>
      have first : descents = [] := Decidable.byContradiction fun nonempty => busy nonempty rfl
      rw [first, List.getLast?_append]
      rfl
    | cons top rest =>
      have nonempty : descents ≠ [] :=
        List.ne_nil_of_length_pos (Nat.zero_lt_of_lt (present top List.mem_cons_self))
      rw [List.getLast?_append, List.getLast?_cons_cons, ← List.getLast?_append]
      exact rooted.last nonempty
  alone := by
    intro number descent found
    rw [getElem?_concat] at found
    split at found
    next last =>
      cases found
      rw [last, List.head?_eq_none_iff, List.length_eq_zero_iff]
      constructor
      · intro idle
        exact Decidable.byContradiction fun nonempty => busy nonempty idle
      · intro first
        refine List.eq_nil_iff_forall_not_mem.mpr fun top member => ?_
        have bound := present top member
        rw [first] at bound
        exact Nat.not_lt_zero top bound
    next => exact rooted.alone number descent found

end Append

namespace Context

variable {context after : Context} {report : Option Segment}

def activeId (context : Context) : Int :=
  match context.activeSpan with
  | .ok key => key.index
  | .error _ => -1

theorem Sound.activeId_eq (sound : context.Sound) (role : Role) :
    context.activeId = Descent.parentId ⟨context.active.head?, role⟩ := by
  unfold activeId
  cases active : context.active with
  | nil =>
    cases found : context.activeSpan with
    | error => rfl
    | ok key =>
      obtain ⟨_, _, stack, _⟩ := sound.activeSpan_eq_ok.mp found
      rw [active] at stack
      cases stack
  | cons index rest =>
    rw [sound.activeSpan_eq_ok.mpr ⟨index, rest, active, rfl⟩]
    rfl

theorem Sound.finishing_numbered (sound : context.Sound) :
    context.finishing.Perm (List.range (context.descents context.past.length).length) := by
  rw [descents_open, List.length_map]
  unfold finishing spans
  cases current : context.current with
  | none => exact List.Perm.refl _
  | some opened =>
    exact List.perm_append_comm.trans (sound.opened opened current).numbered

theorem descents_begin (config : AgentConfig) (moment : Moment) (segment : Nat) :
    (Context.begin config moment).descents segment = [] := by
  unfold descents segmentSpans
  split <;> rfl

/-- The segments of the context are families, and in the open one children finish first. -/
structure Treelike (context : Context) : Prop where
  family : ∀ segment, Family (context.descents segment)
  ordered : ChildrenFirst (context.descents context.past.length) context.finishing

theorem Treelike.begin (config : AgentConfig) (moment : Moment) :
    (Context.begin config moment).Treelike where
  family := fun segment => descents_begin config moment segment ▸ .nil
  ordered := List.Pairwise.nil

theorem Sound.active_lt (sound : context.Sound) :
    ∀ number ∈ context.active, number < (context.descents context.past.length).length := by
  intro number member
  rw [descents_open, List.length_map]
  unfold active at member
  cases current : context.current with
  | none =>
    rw [current] at member
    cases member
  | some opened =>
    rw [current] at member
    rw [spans_of_current current]
    exact (sound.opened opened current).active_lt member

theorem descents_closed (closed : context.current = none) :
    context.descents context.past.length = [] := by
  rw [descents_open]
  unfold spans
  rw [closed]
  rfl

theorem finishing_closed (closed : context.current = none) : context.finishing = [] := by
  unfold finishing
  rw [closed]
  rfl

theorem length_descents_open (context : Context) :
    (context.descents context.past.length).length = context.spans.length := by
  rw [descents_open, List.length_map]

theorem Treelike.grow (treelike : context.Treelike) (sound : context.Sound)
    (growth : Growth context after report) : after.Treelike := by
  cases growth with
  | kept past descents finishing =>
    refine ⟨fun segment => descents ▸ treelike.family segment, ?_⟩
    rw [past, descents, finishing]
    exact treelike.ordered
  | added role finished past descents before finishing alone =>
    have family := treelike.family context.past.length
    have ordered := treelike.ordered
    have numbered := sound.finishing_numbered
    rw [before] at ordered numbered
    constructor
    · intro segment
      rw [descents]
      split
      next here =>
        rw [here]
        refine family.append (fun top innermost => ?_) alone
        exact sound.active_lt top (List.mem_of_mem_head? innermost)
      next => exact treelike.family segment
    · rw [past, descents, if_pos rfl, finishing, ← context.length_descents_open]
      exact ordered.append family numbered
  | reported report past descents closed depicts =>
    refine ⟨fun segment => descents ▸ treelike.family segment, ?_⟩
    rw [finishing_closed closed]
    exact List.Pairwise.nil

/-- As long as no completion is outstanding, the open segment stays open only under an active
span, so its first span is its root. -/
theorem rooted_grow (sound : context.Sound) (growth : Growth context after report)
    (calm : report = none → context.current = none ∨ context.outstanding = 0)
    (rooted : report = none →
      Rooted (context.descents context.past.length) context.finishing) :
    Rooted (after.descents after.past.length) after.finishing := by
  cases growth with
  | kept past descents finishing =>
    rw [past, descents, finishing]
    exact rooted rfl
  | added role finished past descents before finishing _ =>
    have first := rooted rfl
    rw [before] at first
    rw [past, descents, if_pos rfl, finishing, ← context.length_descents_open]
    refine first.append sound.active_lt fun nonempty idle => ?_
    rcases calm rfl with closed | settled
    · exact nonempty (descents_closed closed)
    · refine sound.waiting (fun empty => nonempty ?_) ⟨idle, settled⟩
      rw [descents_open, empty]
      rfl
  | reported report _ descents closed _ =>
    rw [descents_closed closed, finishing_closed closed]
    exact .nil

end Context

structure Creation where
  birth : Birth
  parentId : Int
  role : Role
  deriving DecidableEq, Repr

def Creation.place (creation : Creation) : Int × Int × Role :=
  (creation.birth.key.index, creation.parentId, creation.role)

/-- A journal, the creations, and the segments that were open while a completion was
outstanding, each by its place in the order in which the segments were opened. -/
structure Chronicle where
  journal : Journal
  creations : List Creation := []
  restless : List Nat := []

namespace Chronicle

def begin (config : AgentConfig) (moment : Moment) : Chronicle where
  journal := .begin config moment

def created (journal : Journal) (step : Step) : List Creation :=
  match step.2 with
  | .create role _ _ =>
      ((journal.step step).births.drop journal.births.length).map fun birth =>
        { birth, parentId := journal.context.activeId, role }
  | _ => []

def unrest (journal : Journal) : List Nat :=
  if journal.context.current.isSome ∧ journal.context.outstanding ≠ 0 then
    [journal.reports.length]
  else []

def step (chronicle : Chronicle) (step : Step) : Chronicle :=
  let journal := chronicle.journal.step step
  { journal
    creations := chronicle.creations ++ created chronicle.journal step
    restless := chronicle.restless ++ unrest journal }

def run (chronicle : Chronicle) (steps : List Step) : Chronicle := steps.foldl step chronicle

theorem journal_run (chronicle : Chronicle) (steps : List Step) :
    (chronicle.run steps).journal = chronicle.journal.run steps := by
  induction steps generalizing chronicle with
  | nil => rfl
  | cons step steps ih => exact ih (chronicle.step step)

def createdIn (chronicle : Chronicle) (home : Nat) : List Creation :=
  chronicle.creations.filter fun creation => creation.birth.home = home

/-- What ties a chronicle to its context. -/
structure Faithful (chronicle : Chronicle) : Prop where
  consistent : chronicle.journal.Consistent
  sound : chronicle.journal.context.Sound
  treelike : chronicle.journal.context.Treelike
  places : ∀ home, (chronicle.createdIn home).map Creation.place =
    (chronicle.journal.context.descents home).mapIdx fun number descent => descent.place number
  calm : chronicle.journal.reports.length ∉ chronicle.restless →
    chronicle.journal.context.current = none ∨ chronicle.journal.context.outstanding = 0
  rooted : chronicle.journal.reports.length ∉ chronicle.restless →
    Rooted (chronicle.journal.context.descents chronicle.journal.reports.length)
      chronicle.journal.context.finishing
  depicted : ∀ home report, chronicle.journal.reports[home]? = some report → ∃ order,
    Depicts report (chronicle.journal.context.descents home) order ∧
      ChildrenFirst (chronicle.journal.context.descents home) order ∧
        (home ∉ chronicle.restless → Rooted (chronicle.journal.context.descents home) order)

theorem calm_of_rest {journal : Journal} (rested : journal.reports.length ∉ unrest journal) :
    journal.context.current = none ∨ journal.context.outstanding = 0 := by
  unfold unrest at rested
  split at rested
  next => exact absurd (List.mem_singleton_self _) rested
  next calm =>
    cases current : journal.context.current with
    | none => exact .inl rfl
    | some opened =>
      rw [current] at calm
      exact .inr (Decidable.byContradiction fun waits => calm ⟨rfl, waits⟩)

theorem created_of_other {journal : Journal} {step : Step}
    (other : ∀ role name peer, step.2 ≠ .create role name peer) : created journal step = [] := by
  unfold created
  split
  next role name peer same => exact absurd same (other role name peer)
  next => rfl

theorem created_shared {journal : Journal} (consistent : journal.Consistent) {moment : Moment}
    {role : Role} {index : Nat} (name peer : String)
    (shares : (journal.context.opened moment).shared? role = some index) :
    created journal (moment, .create role name peer) = [] := by
  have known := consistent.known_shared shares
  unfold created
  change ((journal.births ++ Journal.born journal.births _ (.ok (.span _))).drop _).map _ = []
  rw [List.drop_left, Context.createSpan_of_shared name peer shares, Journal.born, if_pos known]
  rfl

theorem created_push {journal : Journal} (consistent : journal.Consistent) {moment : Moment}
    {role : Role} (name peer : String)
    (alone : (journal.context.opened moment).shared? role = none) :
    created journal (moment, .create role name peer) =
      [{ birth := ⟨journal.context.keyOf journal.context.spans.length, journal.reports.length⟩
         parentId := journal.context.activeId
         role }] := by
  have unknown : journal.context.keyOf journal.context.spans.length ∉
      journal.births.map Birth.key := by
    rw [← consistent.known, journal.context.completion?_fresh]
    exact Bool.false_ne_true
  have births : (journal.step (moment, .create role name peer)).births =
      journal.births ++ [⟨journal.context.keyOf journal.context.spans.length,
        (journal.step (moment, .create role name peer)).openings.length - 1⟩] := by
    change journal.births ++ Journal.born journal.births _ (.ok (.span _)) = _
    rw [Context.createSpan_of_not_shared name peer alone, Journal.born, if_neg unknown]
    rfl
  have member : Birth.mk _ _ ∈ (journal.step (moment, .create role name peer)).births :=
    births ▸ List.mem_append_right _ (List.mem_singleton_self _)
  have home := consistent.home_of_born member
    fun member => unknown (List.mem_map_of_mem (f := Birth.key) member)
  unfold created
  rw [births, List.drop_left]
  exact congrArg (fun home => [Creation.mk ⟨_, home⟩ _ _]) home

theorem createdIn_step (chronicle : Chronicle) (step : Step) (home : Nat) :
    (chronicle.step step).createdIn home = chronicle.createdIn home ++
      (created chronicle.journal step).filter fun creation => creation.birth.home = home :=
  List.filter_append _ _

namespace Faithful

variable {chronicle : Chronicle}

theorem begin (config : AgentConfig) (moment : Moment) :
    (Chronicle.begin config moment).Faithful where
  consistent := .begin config moment
  sound := .begin config moment
  treelike := .begin config moment
  places := by
    intro home
    change [] = List.mapIdx _ ((Context.begin config moment).descents home)
    rw [Context.descents_begin]
    rfl
  calm := fun _ => .inr rfl
  rooted := by
    intro _
    change Rooted ((Context.begin config moment).descents 0) []
    rw [Context.descents_begin]
    exact .nil
  depicted := fun _ _ found => (nomatch found)

/-- The spans of each segment come from where the chronicle saw them created. -/
theorem places_step (faithful : chronicle.Faithful) (step : Step) (home : Nat) :
    ((chronicle.step step).createdIn home).map Creation.place =
      ((chronicle.step step).journal.context.descents home).mapIdx
        fun number descent => descent.place number := by
  have before := faithful.places home
  have kept : created chronicle.journal step = [] →
      (chronicle.step step).journal.context.descents = chronicle.journal.context.descents →
      ((chronicle.step step).createdIn home).map Creation.place =
        ((chronicle.step step).journal.context.descents home).mapIdx
          fun number descent => descent.place number := by
    intro none same
    rw [createdIn_step, none, List.filter_nil, List.append_nil, same]
    exact before
  by_cases creates : ∃ role name peer, step.2 = .create role name peer
  · obtain ⟨moment, operation⟩ := step
    obtain ⟨role, name, peer, rfl⟩ := creates
    cases shares : (chronicle.journal.context.opened moment).shared? role with
    | some index =>
      exact kept (created_shared faithful.consistent name peer shares)
        (Context.descents_shared name peer shares)
    | none =>
      have here := faithful.consistent.ordinal
      have descents : (chronicle.step (moment, .create role name peer)).journal.context.descents
          home = _ := Context.descents_push name peer shares home
      rw [createdIn_step, created_push faithful.consistent name peer shares, descents,
        List.map_append, before]
      by_cases same : home = chronicle.journal.reports.length
      · have number := chronicle.journal.context.length_descents_open
        rw [here, ← same] at number
        rw [if_pos (same.trans here.symm), List.mapIdx_concat, number, List.filter_cons,
          if_pos (decide_eq_true same.symm), faithful.sound.activeId_eq role]
        rfl
      · rw [if_neg fun opens => same (opens.trans here), List.filter_cons,
          if_neg fun opens => same (of_decide_eq_true opens).symm]
        exact List.append_nil _
  · refine kept (created_of_other fun role name peer same => creates ⟨role, name, peer, same⟩) ?_
    exact Context.descents_perform fun role name peer same => creates ⟨role, name, peer, same⟩

theorem depicted_grow (faithful : chronicle.Faithful) {after : Context} {report : Option Segment}
    (growth : Context.Growth chronicle.journal.context after report) {home : Nat} {shown : Segment}
    (found : (chronicle.journal.reports ++ report.toList)[home]? = some shown) :
    ∃ order, Depicts shown (after.descents home) order ∧
      ChildrenFirst (after.descents home) order ∧
        (home ∉ chronicle.restless → Rooted (after.descents home) order) := by
  have ordinal := faithful.consistent.ordinal
  cases growth with
  | kept _ descents _ =>
    rw [Option.toList_none, List.append_nil] at found
    rw [descents]
    exact faithful.depicted home shown found
  | added _ _ _ descents _ _ _ =>
    rw [Option.toList_none, List.append_nil] at found
    obtain ⟨bound, _⟩ := List.getElem?_eq_some_iff.mp found
    rw [descents, if_neg (by omega)]
    exact faithful.depicted home shown found
  | reported report _ descents _ depicts =>
    rw [Option.toList_some, getElem?_concat] at found
    rw [descents]
    split at found
    next last =>
      cases found
      have ordered := faithful.treelike.ordered
      rw [ordinal, ← last] at depicts ordered
      exact ⟨_, depicts, ordered, fun rested => last ▸ faithful.rooted (last ▸ rested)⟩
    next => exact faithful.depicted home shown found

theorem step (faithful : chronicle.Faithful) (step : Step) : (chronicle.step step).Faithful := by
  have change := chronicle.journal.context.perform_change step.1 step.2
  have growth := change.growth faithful.sound
  have consistent := faithful.consistent.step step
  refine ⟨consistent, faithful.sound.change change, faithful.treelike.grow faithful.sound growth,
    faithful.places_step step, ?_, ?_, ?_⟩
  · exact fun rested => calm_of_rest fun noted => rested (List.mem_append_right _ noted)
  · intro rested
    -- A step that reports nothing leaves the same segment to be opened, or open.
    have before : (chronicle.journal.context.perform step.1 step.2).report = none →
        chronicle.journal.reports.length ∉ chronicle.restless := by
      intro quiet noted
      refine rested (List.mem_append_left _ ?_)
      change (chronicle.journal.reports ++ _).length ∈ _
      rwa [quiet, Option.toList_none, List.append_nil]
    have grown := Context.rooted_grow faithful.sound growth
      (fun quiet => faithful.calm (before quiet))
      (fun quiet => faithful.consistent.ordinal ▸ faithful.rooted (before quiet))
    have ordinal : (chronicle.step step).journal.context.past.length =
      (chronicle.step step).journal.reports.length := consistent.ordinal
    rw [← ordinal]
    exact grown
  · intro home shown found
    obtain ⟨order, depicts, ordered, rooted⟩ := faithful.depicted_grow growth found
    refine ⟨order, depicts, ordered, fun rested => rooted fun noted => ?_⟩
    exact rested (List.mem_append_left _ noted)

theorem run (faithful : chronicle.Faithful) (steps : List Step) :
    (chronicle.run steps).Faithful := by
  induction steps generalizing chronicle with
  | nil => exact faithful
  | cons step steps ih => exact ih (faithful.step step)

end Faithful

/-- The report of a segment in which these spans were created: it lists each of them once, under
its number and under the span that was active when it was created; the parent of a span comes
behind it and has a smaller id; and an entry or an exit span is never the parent of another. -/
structure SpanTree (created : List Creation) (report : Segment) : Prop where
  numbered : (report.spans.map SpanRecord.id).Perm
    ((List.range created.length).map fun (number : Nat) => (number : Int))
  placed : (report.spans.map SpanRecord.place).Perm (created.map Creation.place)
  parents : ∀ before child after, report.spans = before ++ child :: after →
    child.parentId = -1 ∨ ∃ parent ∈ after, child.parentId = parent.id ∧ parent.id < child.id
  apart : ∀ child ∈ report.spans, ∀ parent ∈ report.spans, child.parentId = parent.id →
    parent.role = child.role → child.role = .inner

/-- The first span of a segment finishes last, and is the only one without a parent. -/
def SingleRoot (report : Segment) : Prop :=
  ∃ others root, report.spans = others ++ [root] ∧ root.id = 0 ∧ root.parentId = -1 ∧
    ∀ other ∈ others, other.parentId ≠ -1

end Chronicle

namespace Depicts

variable {report : Segment} {descents : List Descent} {order : List Nat}

theorem of_mem (depicts : Depicts report descents order) {record : SpanRecord}
    (member : record ∈ report.spans) : ∃ number descent, number ∈ order ∧
      descents[number]? = some descent ∧ record.place = descent.place number := by
  have place := List.mem_map_of_mem (f := fun record : SpanRecord => some record.place) member
  rw [depicts.places] at place
  obtain ⟨number, listed, same⟩ := List.mem_map.mp place
  obtain ⟨descent, found, equal⟩ := Option.map_eq_some_iff.mp same
  exact ⟨number, descent, listed, found, equal.symm⟩

theorem placed (depicts : Depicts report descents order) :
    (report.spans.map SpanRecord.place).Perm
      (descents.mapIdx fun number descent => descent.place number) := by
  refine (List.map_perm_map_iff fun _ _ => Option.some.inj).mp ?_
  have numbers : ((List.range descents.length).map fun number =>
      (descents[number]?).map (·.place number)) =
        (descents.mapIdx fun number descent => descent.place number).map some := by
    refine List.ext_getElem (by simp) fun number listed _ => ?_
    have bound : number < descents.length := by simpa using listed
    simp [List.getElem?_eq_getElem bound]
  rw [List.map_map, ← numbers]
  exact (List.Perm.of_eq depicts.places).trans (depicts.numbered.map _)

theorem ids (depicts : Depicts report descents order) :
    (report.spans.map SpanRecord.id).Perm
      ((List.range descents.length).map fun (number : Nat) => (number : Int)) := by
  have ids := depicts.placed.map (·.1)
  have numbers : (descents.mapIdx fun number descent => descent.place number).map (·.1) =
      (List.range descents.length).map fun (number : Nat) => (number : Int) := by
    refine List.ext_getElem (by simp) fun number _ _ => ?_
    simp [Descent.place]
  rw [List.map_map, numbers] at ids
  exact ids

theorem split (depicts : Depicts report descents order) {before after : List SpanRecord}
    {child : SpanRecord} (spans : report.spans = before ++ child :: after) :
    ∃ first number rest descent, order = first ++ number :: rest ∧
      descents[number]? = some descent ∧ child.place = descent.place number ∧
        after.map (fun record => some record.place) =
          rest.map fun number => (descents[number]?).map (·.place number) := by
  have places := depicts.places
  rw [spans, List.map_append, List.map_cons] at places
  obtain ⟨first, later, rfl, _, here⟩ := List.map_eq_append_iff.mp places.symm
  obtain ⟨number, rest, rfl, same, behind⟩ := List.map_eq_cons_iff.mp here
  obtain ⟨descent, found, equal⟩ := Option.map_eq_some_iff.mp same
  exact ⟨first, number, rest, descent, rfl, found, equal.symm, behind.symm⟩

/-- The parent of a span comes behind it in the report. -/
theorem parent_behind (depicts : Depicts report descents order) (family : Family descents)
    (ordered : ChildrenFirst descents order) {before after : List SpanRecord}
    {child : SpanRecord} (spans : report.spans = before ++ child :: after) :
    child.parentId = -1 ∨
      ∃ parent ∈ after, child.parentId = parent.id ∧ parent.id < child.id := by
  obtain ⟨first, number, rest, descent, rfl, found, place, behind⟩ := depicts.split spans
  have id : child.id = number := congrArg (·.1) place
  have parentId : child.parentId = descent.parentId := congrArg (·.2.1) place
  cases under : descent.parent with
  | none =>
    rw [parentId, Descent.parentId, under]
    exact .inl rfl
  | some parent =>
    right
    have earlier := family.earlier number descent parent found under
    obtain ⟨bound, _⟩ := List.getElem?_eq_some_iff.mp found
    have listed := depicts.numbered.mem_iff.mpr (List.mem_range.mpr (Nat.lt_trans earlier bound))
    -- The parent is not among the spans that finished before.
    have later : parent ∈ rest := by
      rcases List.mem_append.mp listed with before | here
      · have across := (List.pairwise_append.mp ordered).2.2 parent before number
          List.mem_cons_self
        exact absurd under (across descent found)
      · exact (List.mem_cons.mp here).resolve_left (Nat.ne_of_lt earlier)
    have shown := List.mem_map_of_mem
      (f := fun number => (descents[number]?).map (·.place number)) later
    rw [← behind] at shown
    obtain ⟨record, member, same⟩ := List.mem_map.mp shown
    obtain ⟨above, _, equal⟩ := Option.map_eq_some_iff.mp same.symm
    have recordId : record.id = parent := congrArg (·.1) equal.symm
    refine ⟨record, member, ?_, ?_⟩
    · rw [parentId, Descent.parentId, under, recordId]
    · rw [recordId, id]
      exact Int.ofNat_lt.mpr earlier

/-- An entry or an exit span of the report is under a span of another role. -/
theorem roles_apart (depicts : Depicts report descents order) (family : Family descents)
    {child parent : SpanRecord} (inReport : child ∈ report.spans)
    (alsoInReport : parent ∈ report.spans) (under : child.parentId = parent.id)
    (same : parent.role = child.role) : child.role = .inner := by
  obtain ⟨number, descent, _, found, place⟩ := depicts.of_mem inReport
  obtain ⟨top, above, _, lookup, topPlace⟩ := depicts.of_mem alsoInReport
  have parentId : child.parentId = descent.parentId := congrArg (·.2.1) place
  have role : child.role = descent.role := congrArg (·.2.2) place
  have topId : parent.id = top := congrArg (·.1) topPlace
  have topRole : parent.role = above.role := congrArg (·.2.2) topPlace
  rw [parentId, topId] at under
  rw [topRole, role] at same
  rw [role]
  refine family.apart number descent top above found ?_ lookup same
  unfold Descent.parentId at under
  split at under
  next parent named => rw [named, Int.ofNat.inj under]
  next => cases under

theorem singleRoot (depicts : Depicts report descents order) (rooted : Rooted descents order)
    (nonempty : descents ≠ []) : Chronicle.SingleRoot report := by
  obtain ⟨first, rfl⟩ := List.getLast?_eq_some_iff.mp (rooted.last nonempty)
  have places := depicts.places
  rw [List.map_append, List.map_singleton] at places
  obtain ⟨others, last, spans, before, here⟩ := List.map_eq_append_iff.mp places
  obtain ⟨root, rfl, same⟩ := List.map_eq_singleton_iff.mp here
  obtain ⟨descent, found, place⟩ := Option.map_eq_some_iff.mp same.symm
  refine ⟨others, root, spans, congrArg (·.1) place.symm, ?_, ?_⟩
  · have alone := (rooted.alone 0 descent found).mpr rfl
    have parentId : root.parentId = descent.parentId := congrArg (·.2.1) place.symm
    rw [parentId, Descent.parentId, alone]
  · intro other member
    have shown := List.mem_map_of_mem (f := fun record : SpanRecord => some record.place) member
    rw [before] at shown
    obtain ⟨number, listed, equal⟩ := List.mem_map.mp shown
    obtain ⟨child, lookup, childPlace⟩ := Option.map_eq_some_iff.mp equal
    -- The number of the root is not listed twice.
    have nodup := depicts.numbered.nodup_iff.mpr List.nodup_range
    have different : number ≠ 0 := (List.nodup_append.mp nodup).2.2 number listed 0
      (List.mem_singleton_self 0)
    have parentId : other.parentId = child.parentId := congrArg (·.2.1) childPlace.symm
    intro none
    rw [parentId, Descent.parentId] at none
    split at none
    next => cases none
    next orphan => exact different ((rooted.alone number child lookup).mp orphan)

end Depicts

namespace Chronicle

theorem Faithful.spanTree {chronicle : Chronicle} (faithful : chronicle.Faithful) {home : Nat}
    {report : Segment} (reported : chronicle.journal.reports[home]? = some report) :
    SpanTree (chronicle.createdIn home) report := by
  obtain ⟨order, depicts, ordered, _⟩ := faithful.depicted home report reported
  have family := faithful.treelike.family home
  have places := faithful.places home
  have count := congrArg List.length places
  rw [List.length_map, List.length_mapIdx] at count
  constructor
  · exact count ▸ depicts.ids
  · exact places ▸ depicts.placed
  · exact fun _ _ _ spans => depicts.parent_behind family ordered spans
  · exact fun _ inReport _ alsoInReport => depicts.roles_apart family inReport alsoInReport

/-- Every reported segment shows its spans where they come from. -/
theorem run_depicts (config : AgentConfig) (moment : Moment) (steps : List Step) (home : Nat)
    (report : Segment)
    (reported : ((Journal.begin config moment).run steps).reports[home]? = some report) :
    ∃ order, Depicts report
      (((Journal.begin config moment).run steps).context.descents home) order := by
  have faithful := (Faithful.begin config moment).run steps
  have same : ((Chronicle.begin config moment).run steps).journal =
    (Journal.begin config moment).run steps := journal_run _ steps
  rw [← same] at reported ⊢
  obtain ⟨order, depicts, _⟩ := faithful.depicted home report reported
  exact ⟨order, depicts⟩

/-- Every reported segment is a tree of the spans that were created in it, and has a single root
unless a completion was outstanding while it was open. -/
theorem run_reports_trees (config : AgentConfig) (moment : Moment) (steps : List Step)
    {home : Nat} {report : Segment}
    (reported : ((Chronicle.begin config moment).run steps).journal.reports[home]? =
      some report) :
    SpanTree (((Chronicle.begin config moment).run steps).createdIn home) report ∧
      (home ∉ ((Chronicle.begin config moment).run steps).restless →
        ((Chronicle.begin config moment).run steps).createdIn home ≠ [] → SingleRoot report) := by
  have faithful := (Faithful.begin config moment).run steps
  refine ⟨faithful.spanTree reported, fun rested nonempty => ?_⟩
  obtain ⟨order, depicts, _, rooted⟩ := faithful.depicted home report reported
  refine depicts.singleRoot (rooted rested) fun empty => nonempty ?_
  have places := faithful.places home
  rw [empty] at places
  exact List.map_eq_nil_iff.mp places

def nestedRun : List Step :=
  let moment : Moment := ⟨1, "second", "trace"⟩
  [.create .entry "/order" "", .create .exit "/stock" "stock:80", .stop (.own ⟨0, 1⟩),
    .create .inner "work" "", .create .entry "/pay" "", .stop (.own ⟨0, 3⟩), .stop (.own ⟨0, 2⟩),
    .stop (.own ⟨0, 0⟩), .create .inner "later" ""].map (moment, ·)

theorem nestedRun_tree :
    let chronicle := (Chronicle.begin { instanceName := "instance" } ⟨0, "first", "trace"⟩).run
      nestedRun
    ∃ report, chronicle.journal.reports[0]? = some report ∧
      SpanTree (chronicle.createdIn 0) report ∧ SingleRoot report ∧
        report.spans.map SpanRecord.place =
          [(1, 0, .exit), (3, 2, .entry), (2, 0, .inner), (0, -1, .entry)] := by
  intro chronicle
  have reported : chronicle.journal.reports[0]? =
    some (chronicle.journal.reports.get ⟨0, by decide⟩) := rfl
  have trees := run_reports_trees _ _ nestedRun reported
  exact ⟨_, reported, trees.1, trees.2 (by decide) (by decide), by decide⟩

end Chronicle

end TraceAgent.Native
