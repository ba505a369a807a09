import TraceAgent.Proofs.Native.HandOut

/-! Agreement on traces between contexts that exchange calls and snapshots.

A segment is in the trace of its first parent, and until it has a parent in a
trace of its own. What it handed out before its first parent came in names its
own trace; what it hands out later names the one in which it is reported.
Whoever continues a hand-out first is in the trace that the hand-out names.
-/

set_option autoImplicit false

namespace TraceAgent.Segment

/-- The segment is in the trace of its first parent, or in a trace of its own. -/
inductive Traced (segment : Segment) : Prop where
  | begun (orphan : segment.parents = []) (own : ¬ segment.traceId.isReceived)
  | joined (first : Parent) (leads : segment.parents.head? = some first)
      (trace : segment.traceId = .received first.traceId)

/-- A later state of a segment: it keeps its id and its parents, and its trace as long as it has
no parent. -/
structure Follows (before after : Segment) : Prop where
  id : after.id = before.id
  parents : before.parents <+: after.parents
  trace : after.parents = [] → after.traceId = before.traceId

namespace Follows

variable {first second third : Segment}

theorem of_frame (id : second.id = first.id) (traceId : second.traceId = first.traceId)
    (parents : second.parents = first.parents) : Follows first second :=
  ⟨id, parents ▸ List.prefix_refl _, fun _ => traceId⟩

theorem refl (segment : Segment) : Follows segment segment := .of_frame rfl rfl rfl

theorem trans (earlier : Follows first second) (later : Follows second third) :
    Follows first third where
  id := later.id.trans earlier.id
  parents := earlier.parents.trans later.parents
  trace := by
    intro orphan
    have before : second.parents = [] := List.prefix_nil.mp (orphan ▸ later.parents)
    exact (later.trace orphan).trans (earlier.trace before)

theorem link (segment : Segment) (parent : Parent) : Follows segment (segment.link parent) where
  id := segment.id_link parent
  parents := segment.parents_link parent ▸ Parent.prefix_addTo _ _
  trace := by
    intro orphan
    rw [parents_link] at orphan
    exact absurd orphan (Parent.addTo_ne_nil _ _)

/-- With its first parent a segment keeps the trace that this parent brought. -/
theorem traceId_eq (follows : Follows first second) (before : Traced first)
    (after : Traced second) (settled : first.parents ≠ [] ∨ second.parents = []) :
    second.traceId = first.traceId := by
  rcases settled with joined | orphan
  · cases before with
    | begun orphan => exact absurd orphan joined
    | joined parent leads trace =>
      obtain ⟨rest, extended⟩ := follows.parents
      have kept : second.parents.head? = some parent := by
        rw [← extended, List.head?_append, leads]
        rfl
      cases after with
      | begun orphan =>
        rw [orphan] at kept
        cases kept
      | joined other leadsAfter traceAfter =>
        rw [kept] at leadsAfter
        cases leadsAfter
        rw [traceAfter, trace]
  · exact follows.trace orphan

end Follows

namespace Traced

variable {segment : Segment}

theorem of_frame {other : Segment} (traced : segment.Traced)
    (traceId : other.traceId = segment.traceId) (parents : other.parents = segment.parents) :
    other.Traced := by
  cases traced with
  | begun orphan own => exact .begun (parents.trans orphan) (traceId ▸ own)
  | joined first leads trace => exact .joined first (parents ▸ leads) (traceId.trans trace)

theorem link (traced : segment.Traced) (parent : Parent) : (segment.link parent).Traced := by
  cases traced with
  | begun orphan own =>
    refine .joined parent ?_ (traceId_link parent own)
    rw [parents_link, orphan]
    rfl
  | joined first leads trace =>
    have received : segment.traceId.isReceived := by rw [trace]; rfl
    refine .joined first ?_ ((traceId_link_of_received parent received).trans trace)
    obtain ⟨rest, extended⟩ := Parent.prefix_addTo segment.parents parent
    rw [parents_link, ← extended, List.head?_append, leads]
    rfl

end Traced

end TraceAgent.Segment

namespace TraceAgent.Native

open Segment Propagation

namespace Context

variable {context after : Context} {moment : Moment} {report : Option Segment}

inductive Evolves (before after : Segment) : Prop where
  | kept (id : after.id = before.id) (traceId : after.traceId = before.traceId)
      (parents : after.parents = before.parents)
  | linked (parent : Parent) (same : after = before.link parent)

theorem Evolves.follows {before after : Segment} (evolves : Evolves before after) :
    before.Follows after := by
  cases evolves with
  | kept id traceId parents => exact .of_frame id traceId parents
  | linked parent same => exact same ▸ .link before parent

theorem Evolves.traced {before after : Segment} (evolves : Evolves before after)
    (traced : before.Traced) : after.Traced := by
  cases evolves with
  | kept _ traceId parents => exact traced.of_frame traceId parents
  | linked parent same => exact same ▸ traced.link parent

theorem settle_keeps {middle : Context} {opened : OpenSegment}
    (current : middle.current = some opened) :
    ∃ segment, middle.settle.2.or (middle.settle.1.current.map (·.segment)) = some segment ∧
      segment.id = opened.segment.id ∧ segment.traceId = opened.segment.traceId ∧
        segment.parents = opened.segment.parents := by
  by_cases done : middle.IsDone
  · rw [settle_of_done current done]
    exact ⟨opened.close, rfl, rfl, rfl, rfl⟩
  · rw [settle_of_not_done done, current]
    exact ⟨opened.segment, rfl, rfl, rfl, rfl⟩

/-- What becomes of the open segment in a step: it stays closed, or the segment that was open or
is opened now is open or reported afterwards. -/
def Turns (context : Context) (moment : Moment) (after : Context) (report : Option Segment) :
    Prop :=
  (context.current = none ∧ report = none ∧ after.current = none) ∨
    ∃ segment, report.or (after.current.map (·.segment)) = some segment ∧
      Evolves (context.opened moment).segment segment

theorem opened_of_current {opened : OpenSegment} (current : context.current = some opened) :
    context.opened moment = opened := by
  unfold Context.opened
  rw [current]
  rfl

theorem turns_of_frame (same : after.current.map (·.segment) = context.current.map (·.segment)) :
    Turns context moment after none := by
  cases current : context.current with
  | none =>
    rw [current] at same
    exact .inl ⟨current, rfl, Option.map_eq_none_iff.mp same⟩
  | some opened =>
    rw [current] at same
    exact .inr ⟨opened.segment, same, opened_of_current current ▸ .kept rfl rfl rfl⟩

theorem turns_of_settle {middle : Context}
    (same : middle.current.map (·.segment) = context.current.map (·.segment)) :
    Turns context moment middle.settle.1 middle.settle.2 := by
  cases current : context.current with
  | none =>
    rw [current] at same
    have closed : middle.current = none := Option.map_eq_none_iff.mp same
    rw [settle_of_none closed]
    exact .inl ⟨current, rfl, closed⟩
  | some opened =>
    rw [current] at same
    obtain ⟨kept, stays, segment⟩ := Option.map_eq_some_iff.mp same
    obtain ⟨shown, found, id, traceId, parents⟩ := settle_keeps stays
    rw [segment] at id traceId parents
    exact .inr ⟨shown, found, opened_of_current current ▸ .kept id traceId parents⟩

theorem segment_modifySpan (key : SpanKey) (change : Span → Span) :
    (context.modifySpan key change).current.map (·.segment) =
      context.current.map (·.segment) := by
  rw [current_modifySpan]
  split
  · cases context.current <;> rfl
  · rfl

theorem Change.turns {paired : Bool} (change : Change context moment paired after report) :
    Turns context moment after report := by
  cases change with
  | stay => exact turns_of_frame rfl
  | create role name peer =>
    have segment := (context.opened moment).segment_enter moment.now context.extension role name peer
    exact .inr ⟨_, rfl, segment ▸ .kept rfl rfl rfl⟩
  | @leave _ opened index rest current active =>
    refine turns_of_settle ?_
    rw [current]
    exact congrArg some OpenSegment.segment_leave
  | join pending correlation extension =>
    exact .inr ⟨_, rfl, .linked pending.parent (OpenSegment.segment_link _ _ _ _)⟩
  | edit key _ _ _ _ => exact turns_of_frame (segment_modifySpan key _)
  | prepare key _ => exact turns_of_frame (segment_modifySpan key _)
  | finish key _ => exact turns_of_settle (segment_modifySpan key _)
  | expect => exact turns_of_frame rfl
  | complete => exact turns_of_settle rfl

theorem Change.closes {paired : Bool} {shown : Segment}
    (change : Change context moment paired after (some shown)) : after.current = none := by
  obtain ⟨before, same, handed⟩ := change.settles
  obtain ⟨_, _, _, _, settled⟩ := settle_eq_some handed
  rw [same, settled]

end Context

namespace Journal

variable {journal : Journal}

def segment? (journal : Journal) (home : Nat) : Option Segment :=
  if home = journal.reports.length then journal.context.current.map (·.segment)
  else journal.reports[home]?

theorem segment?_of_report {home : Nat} {report : Segment}
    (reported : journal.reports[home]? = some report) : journal.segment? home = some report := by
  obtain ⟨bound, _⟩ := List.getElem?_eq_some_iff.mp reported
  unfold segment?
  rw [if_neg (Nat.ne_of_lt bound)]
  exact reported

def IsTraced (journal : Journal) : Prop :=
  ∀ home segment, journal.segment? home = some segment → segment.Traced

theorem reports_step (journal : Journal) (step : Step) :
    (journal.step step).reports =
      journal.reports ++ (journal.context.perform step.1 step.2).report.toList := rfl

theorem segment?_step_of_lt (journal : Journal) (step : Step) {home : Nat}
    (before : home < journal.reports.length) :
    (journal.step step).segment? home = journal.segment? home := by
  have reported : (journal.step step).reports[home]? = journal.reports[home]? := by
    rw [reports_step, List.getElem?_append_left before]
  have later : home ≠ (journal.step step).reports.length := by
    rw [reports_step, List.length_append]
    omega
  unfold segment?
  rw [if_neg later, if_neg (Nat.ne_of_lt before), reported]

/-- The open segment is found in its place after a step, reported or not. -/
theorem segment?_step_open (journal : Journal) (step : Step) :
    (journal.step step).segment? journal.reports.length =
      (journal.context.perform step.1 step.2).report.or
        ((journal.step step).context.current.map (·.segment)) := by
  unfold segment?
  rw [reports_step]
  cases (journal.context.perform step.1 step.2).report with
  | none =>
    rw [Option.toList_none, List.append_nil, if_pos rfl]
    rfl
  | some report =>
    rw [Option.toList_some, List.length_append, List.length_singleton,
      if_neg (Nat.ne_of_lt (Nat.lt_succ_self _)), List.getElem?_concat_length]
    rfl

theorem segment?_step_of_gt (journal : Journal) (step : Step) {home : Nat}
    (behind : journal.reports.length < home) : (journal.step step).segment? home = none := by
  have change := journal.context.perform_change step.1 step.2
  unfold segment?
  rw [reports_step]
  cases handed : (journal.context.perform step.1 step.2).report with
  | none =>
    rw [Option.toList_none, List.append_nil, if_neg (Nat.ne_of_gt behind)]
    exact List.getElem?_eq_none (Nat.le_of_lt behind)
  | some report =>
    rw [handed] at change
    have closed : (journal.step step).context.current = none := change.closes
    rw [closed, Option.toList_some, List.length_append, List.length_singleton]
    split
    · rfl
    · exact List.getElem?_eq_none (by rw [List.length_append, List.length_singleton]; omega)

/-- A segment that is found stays to be found, in a later state. -/
theorem follows_step (journal : Journal) (step : Step) {home : Nat} {before : Segment}
    (found : journal.segment? home = some before) :
    ∃ after, (journal.step step).segment? home = some after ∧ before.Follows after := by
  rcases Nat.lt_trichotomy home journal.reports.length with earlier | rfl | later
  · exact ⟨before, (journal.segment?_step_of_lt step earlier).trans found, .refl before⟩
  · unfold segment? at found
    rw [if_pos rfl] at found
    obtain ⟨opened, current, same⟩ := Option.map_eq_some_iff.mp found
    rcases (journal.context.perform_change step.1 step.2).turns with ⟨closed, _⟩ | turned
    · rw [current] at closed
      cases closed
    · obtain ⟨after, here, evolves⟩ := turned
      rw [Context.opened_of_current current, same] at evolves
      exact ⟨after, (journal.segment?_step_open step).trans here, evolves.follows⟩
  · unfold segment? at found
    rw [if_neg (Nat.ne_of_gt later), List.getElem?_eq_none (Nat.le_of_lt later)] at found
    cases found

theorem IsTraced.begin (config : AgentConfig) (moment : Moment) :
    (Journal.begin config moment).IsTraced := by
  intro home segment found
  unfold segment? at found
  split at found
  · cases found
    exact .begun rfl Bool.false_ne_true
  · cases found

theorem segment?_opened (journal : Journal) (moment : Moment) :
    journal.segment? journal.reports.length = some (journal.context.opened moment).segment ∨
      (journal.context.opened moment).segment = (OpenSegment.begin moment).segment := by
  unfold segment? Context.opened
  rw [if_pos rfl]
  cases journal.context.current with
  | none => exact .inr rfl
  | some opened => exact .inl rfl

/-- A segment that is found after a step was found before, or came of the one that the step works
on. -/
theorem segment?_step_cases {step : Step} {home : Nat} {segment : Segment}
    (found : (journal.step step).segment? home = some segment) :
    journal.segment? home = some segment ∨
      Context.Evolves (journal.context.opened step.1).segment segment := by
  rcases Nat.lt_trichotomy home journal.reports.length with earlier | rfl | later
  · exact .inl ((journal.segment?_step_of_lt step earlier).symm.trans found)
  · rw [journal.segment?_step_open step] at found
    rcases (journal.context.perform_change step.1 step.2).turns with ⟨_, quiet, closed⟩ | turned
    · have none : (journal.step step).context.current = none := closed
      rw [quiet, none] at found
      cases found
    · obtain ⟨after, here, evolves⟩ := turned
      cases found.symm.trans here
      exact .inr evolves
  · rw [journal.segment?_step_of_gt step later] at found
    cases found

/-- The segment that is open, or that the next step opens, is traced. -/
theorem IsTraced.opened (traced : journal.IsTraced) (moment : Moment) :
    (journal.context.opened moment).segment.Traced := by
  rcases journal.segment?_opened moment with known | new
  · exact traced _ _ known
  · exact new ▸ .begun rfl Bool.false_ne_true

theorem IsTraced.step (traced : journal.IsTraced) (step : Step) :
    (journal.step step).IsTraced := by
  intro home segment found
  rcases segment?_step_cases found with before | evolves
  · exact traced home segment before
  · exact evolves.traced (traced.opened step.1)

end Journal

inductive Output.Names : Output → Parent → Prop where
  | call (carrier : Carrier) : Names (.carrier carrier) (.ofCarrier carrier)
  | thread (snapshot : Snapshot) (anchor : Anchor) (service instanceName : String)
      (anchored : snapshot.anchor = some anchor) :
      Names (.snapshot snapshot) (.ofAnchor anchor service instanceName)

theorem Output.Names.traceId {output : Output} {parent : Parent} {handOut : HandOut}
    (names : output.Names parent) (hands : output.handOut? = some handOut) :
    parent.traceId = handOut.traceId := by
  cases names with
  | call carrier =>
    cases hands
    rfl
  | thread snapshot anchor service instanceName anchored =>
    simp only [Output.handOut?, anchored, Option.map_some, Option.some.injEq] at hands
    rw [← hands]
    rfl

/-- Something that was handed out: by which context, out of which of its segments, and whether
this segment had joined a trace by then. -/
structure Publication where
  place : Nat
  home : Nat
  output : Output
  handOut : HandOut
  joined : Bool

/-- Native contexts that run side by side, and what they have handed out. -/
structure Network where
  journals : List Journal := []
  publications : List Publication := []

inductive Event where
  | start (config : AgentConfig) (moment : Moment)
  | act (place : Nat) (step : Step)

namespace Network

def published (place : Nat) (journal : Journal) (step : Step) : List Publication :=
  match (journal.context.perform step.1 step.2).result with
  | .ok output =>
      (output.handOut?.map fun handOut =>
        { place, home := journal.reports.length, output, handOut
          joined := journal.context.current.any (·.segment.traceId.isReceived) }).toList
  | .error _ => []

def step (network : Network) : Event → Network
  | .start config moment =>
      { network with journals := network.journals ++ [Journal.begin config moment] }
  | .act place step =>
      match network.journals[place]? with
      | some journal =>
          { journals := network.journals.set place (journal.step step)
            publications := network.publications ++ published place journal step }
      | none => network

def run (network : Network) (events : List Event) : Network := events.foldl step network

end Network

/-- What a segment keeps of a hand-out: its id, and its trace unless the first parent came later. -/
structure Publication.Holds (publication : Publication) (segment : Segment) : Prop where
  id : segment.id = publication.handOut.segmentId
  joined : publication.joined → segment.parents ≠ []
  trace : publication.joined ∨ segment.parents = [] →
    segment.traceId.id = publication.handOut.traceId

theorem Publication.Holds.follow {publication : Publication} {before after : Segment}
    (holds : publication.Holds before) (follows : before.Follows after) (traced : before.Traced)
    (tracedAfter : after.Traced) : publication.Holds after where
  id := follows.id.trans holds.id
  joined := by
    intro joined orphan
    exact holds.joined joined (List.prefix_nil.mp (orphan ▸ follows.parents))
  trace := by
    intro settled
    have kept : after.traceId = before.traceId :=
      follows.traceId_eq traced tracedAfter (settled.imp_left holds.joined)
    rw [kept]
    refine holds.trace (settled.imp_right fun orphan => ?_)
    exact List.prefix_nil.mp (orphan ▸ follows.parents)

namespace Network

variable {network : Network}

def IsKept (journals : List Journal) (publication : Publication) : Prop :=
  ∃ journal segment, journals[publication.place]? = some journal ∧
    journal.segment? publication.home = some segment ∧ publication.Holds segment

/-- Every segment is in the trace of its first parent, and what was handed out holds. -/
structure Sound (network : Network) : Prop where
  traced : ∀ journal ∈ network.journals, journal.IsTraced
  named : ∀ publication ∈ network.publications,
    publication.output.handOut? = some publication.handOut
  kept : ∀ publication ∈ network.publications, IsKept network.journals publication

theorem IsKept.append {journals : List Journal} {publication : Publication}
    (kept : IsKept journals publication) (journal : Journal) :
    IsKept (journals ++ [journal]) publication := by
  obtain ⟨known, segment, found, rest⟩ := kept
  obtain ⟨bound, _⟩ := List.getElem?_eq_some_iff.mp found
  exact ⟨known, segment, (List.getElem?_append_left bound).trans found, rest⟩

theorem IsKept.set {journals : List Journal} {publication : Publication}
    (kept : IsKept journals publication) {place : Nat} {journal : Journal}
    (here : journals[place]? = some journal) (traced : journal.IsTraced) (step : Step) :
    IsKept (journals.set place (journal.step step)) publication := by
  obtain ⟨known, segment, found, inJournal, holds⟩ := kept
  by_cases same : place = publication.place
  · subst same
    cases found.symm.trans here
    obtain ⟨bound, _⟩ := List.getElem?_eq_some_iff.mp here
    obtain ⟨after, foundAfter, follows⟩ := journal.follows_step step inJournal
    exact ⟨journal.step step, after, List.getElem?_set_self bound, foundAfter,
      holds.follow follows (traced _ _ inJournal) (traced.step step _ _ foundAfter)⟩
  · exact ⟨known, segment, (List.getElem?_set_ne same).trans found, inJournal, holds⟩

/-- What a step hands out holds of the open segment. -/
theorem holds_published {place : Nat} {journal : Journal} {step : Step}
    {publication : Publication} (traced : journal.IsTraced)
    (member : publication ∈ published place journal step) :
    publication.place = place ∧ publication.output.handOut? = some publication.handOut ∧
      ∃ segment, journal.segment? publication.home = some segment ∧ publication.Holds segment := by
  unfold published at member
  split at member
  next output result =>
    obtain ⟨handOut, hands, rfl⟩ := Option.map_eq_some_iff.mp (Option.mem_toList.mp member)
    obtain ⟨opened, index, span, current, _, traceId, segmentId, _, _⟩ :=
      Context.perform_handOut result hands
    have found : journal.segment? journal.reports.length = some opened.segment := by
      unfold Journal.segment?
      rw [if_pos rfl, current]
      rfl
    refine ⟨rfl, hands, opened.segment, found, segmentId.symm, ?_, fun _ => traceId.symm⟩
    intro joined orphan
    dsimp only at joined
    rw [current] at joined
    cases traced _ _ found with
    | begun _ own => exact own joined
    | joined first leads _ =>
      rw [orphan] at leads
      cases leads
  next => cases member

theorem Sound.step (sound : network.Sound) (event : Event) : (network.step event).Sound := by
  cases event with
  | start config moment =>
    refine ⟨fun journal member => ?_, sound.named, fun publication member =>
      (sound.kept publication member).append _⟩
    rcases List.mem_append.mp member with known | new
    · exact sound.traced journal known
    · exact List.mem_singleton.mp new ▸ .begin config moment
  | act place step =>
    cases here : network.journals[place]? with
    | none =>
      have same : network.step (.act place step) = network := by simp only [Network.step, here]
      rw [same]
      exact sound
    | some journal =>
      have stepped : network.step (.act place step) =
          { journals := network.journals.set place (journal.step step)
            publications := network.publications ++ published place journal step } := by
        simp only [Network.step, here]
      have traced := sound.traced journal (List.mem_of_getElem? here)
      rw [stepped]
      refine ⟨fun other member => ?_, fun publication member => ?_, fun publication member => ?_⟩
      · rcases List.mem_or_eq_of_mem_set member with known | new
        · exact sound.traced other known
        · exact new ▸ traced.step step
      · rcases List.mem_append.mp member with known | new
        · exact sound.named publication known
        · exact (holds_published traced new).2.1
      · rcases List.mem_append.mp member with known | new
        · exact (sound.kept publication known).set here traced step
        · obtain ⟨rfl, _, segment, found, holds⟩ := holds_published traced new
          have before : IsKept network.journals publication :=
            ⟨journal, segment, here, found, holds⟩
          exact before.set here traced step

theorem Sound.run (sound : network.Sound) (events : List Event) : (network.run events).Sound := by
  induction events generalizing network with
  | nil => exact sound
  | cons event events ih => exact ih (sound.step event)

theorem Sound.empty : Sound {} where
  traced := fun _ => (nomatch ·)
  named := fun _ => (nomatch ·)
  kept := fun _ => (nomatch ·)

/-- How the reports agree with a hand-out. The segment that it came from is reported with the
trace that was handed out, unless it joined a trace only later, which then is that of its first
parent. Whoever continues the hand-out first is in the trace that was handed out, and so is
reported in the same trace as its parent. -/
structure Agrees (network : Network) (publication : Publication) : Prop where
  reported : ∀ journal report, network.journals[publication.place]? = some journal →
    journal.reports[publication.home]? = some report →
      report.id = publication.handOut.segmentId ∧
        (publication.joined ∨ report.parents = [] →
          report.traceId.id = publication.handOut.traceId) ∧
        ∀ first, report.parents.head? = some first → report.traceId.id = first.traceId
  continued : ∀ journal ∈ network.journals, ∀ child ∈ journal.reports, ∀ first,
    child.parents.head? = some first → publication.output.Names first →
      child.traceId.id = publication.handOut.traceId
  shared : ∀ journal report, network.journals[publication.place]? = some journal →
    journal.reports[publication.home]? = some report →
      (publication.joined ∨ report.parents = []) →
        ∀ other ∈ network.journals, ∀ child ∈ other.reports, ∀ first,
          child.parents.head? = some first → publication.output.Names first →
            child.traceId.id = report.traceId.id

/-- A segment with a parent is reported in the trace of its first one. -/
theorem traceId_report {journal : Journal} (traced : journal.IsTraced) {home : Nat}
    {report : Segment} (found : journal.segment? home = some report) {first : Parent}
    (leads : report.parents.head? = some first) : report.traceId.id = first.traceId := by
  cases traced home report found with
  | begun orphan =>
    rw [orphan] at leads
    cases leads
  | joined parent same trace =>
    cases leads.symm.trans same
    rw [trace]
    rfl

theorem Sound.agrees (sound : network.Sound) {publication : Publication}
    (member : publication ∈ network.publications) : network.Agrees publication := by
  have reported : ∀ journal report, network.journals[publication.place]? = some journal →
      journal.reports[publication.home]? = some report →
        publication.Holds report ∧ ∀ first, report.parents.head? = some first →
          report.traceId.id = first.traceId := by
    intro journal report here found
    obtain ⟨known, segment, there, kept, holds⟩ := sound.kept publication member
    cases there.symm.trans here
    have shown := Journal.segment?_of_report found
    cases shown.symm.trans kept
    have traced := sound.traced journal (List.mem_of_getElem? here)
    exact ⟨holds, fun first => traceId_report traced shown⟩
  have continued : ∀ journal ∈ network.journals, ∀ child ∈ journal.reports, ∀ first,
      child.parents.head? = some first → publication.output.Names first →
        child.traceId.id = publication.handOut.traceId := by
    intro journal listed child inReports first leads names
    obtain ⟨home, found⟩ := List.getElem?_of_mem inReports
    have traced := sound.traced journal listed
    exact (traceId_report traced (Journal.segment?_of_report found) leads).trans
      (names.traceId (sound.named publication member))
  refine ⟨fun journal report here found => ?_, continued, ?_⟩
  · obtain ⟨holds, first⟩ := reported journal report here found
    exact ⟨holds.id, holds.trace, first⟩
  · intro journal report here found settled other listed child inReports first leads names
    obtain ⟨holds, _⟩ := reported journal report here found
    exact (continued other listed child inReports first leads names).trans
      (holds.trace settled).symm

/-- In every run of contexts side by side the reports agree with what was handed out. -/
theorem run_agrees (events : List Event) {publication : Publication}
    (member : publication ∈ (Network.run {} events).publications) :
    (Network.run {} events).Agrees publication := (Sound.empty.run events).agrees member

def node : AgentConfig := { instanceName := "instance" }

def callTo (address traceId segmentId : String) : Carrier where
  origin :=
    { traceId, segmentId, spanId := 0, service := node.service, instanceName := node.instanceName,
      endpoint := address, address }

def chain (second : List Operation) (handed : String) : List Event :=
  let moment : Moment := ⟨1, "unused", "unused"⟩
  [.start node ⟨0, "gateway", "trace-1"⟩, .start node ⟨0, "order", "trace-2"⟩,
    .start node ⟨0, "stock", "trace-3"⟩] ++
  [.create .exit "order:80" "order:80", .inject {}, .stop (.own ⟨0, 0⟩)].map
    (fun operation => .act 0 (moment, operation)) ++
  second.map (fun operation => .act 1 (moment, operation)) ++
  [.extract (callTo "stock:80" handed "order"), .create .entry "/stock" "",
    .stop (.own ⟨0, 0⟩)].map (fun operation => .act 2 (moment, operation))

def chained : List Event :=
  chain [.extract (callTo "order:80" "trace-1" "gateway"), .create .exit "stock:80" "stock:80",
    .inject {}, .stop (.own ⟨0, 0⟩)] "trace-1"

theorem chained_agrees :
    let network := Network.run {} chained
    ∃ publication ∈ network.publications, network.Agrees publication ∧
      publication.handOut = ⟨"trace-1", "order", 0, true⟩ ∧
        network.journals.map (fun journal => journal.reports.map (·.traceId.id)) =
          [["trace-1"], ["trace-1"], ["trace-1"]] := by
  intro network
  have published : network.publications.get ⟨1, by decide⟩ ∈ network.publications :=
    List.get_mem _ _
  exact ⟨_, published, run_agrees chained published, by decide, by decide⟩

def lateJoin : List Event :=
  chain [.create .exit "stock:80" "stock:80", .inject {},
    .extract (callTo "order:80" "trace-1" "gateway"), .stop (.own ⟨0, 0⟩)] "trace-2"

/-- A segment that hands its own trace out and joins another one afterwards is reported in the
other one, while whoever continues the hand-out is reported in the one that was handed out. -/
theorem late_join_parts_traces :
    let network := Network.run {} lateJoin
    ∃ publication ∈ network.publications, ∃ parent ∈ (network.journals.map (·.reports)).flatten,
      ∃ child ∈ (network.journals.map (·.reports)).flatten, ∃ first,
        parent.id = publication.handOut.segmentId ∧
        parent.traceId.id ≠ publication.handOut.traceId ∧
        child.parents.head? = some first ∧ publication.output.Names first ∧
        child.traceId.id ≠ parent.traceId.id := by
  intro network
  have published : network.publications.get ⟨1, by decide⟩ ∈ network.publications :=
    List.get_mem _ _
  have parent : (network.journals.map (·.reports)).flatten.get ⟨1, by decide⟩ ∈
    (network.journals.map (·.reports)).flatten := List.get_mem _ _
  have child : (network.journals.map (·.reports)).flatten.get ⟨2, by decide⟩ ∈
    (network.journals.map (·.reports)).flatten := List.get_mem _ _
  exact ⟨_, published, _, parent, _, child, _, by decide, by decide, rfl, .call _, by decide⟩

end Network

end TraceAgent.Native
