import TraceAgent.Proofs.Native.Resumption

/-! The bookkeeping of parents over a run of a context.

A parent that comes along with a call or a snapshot is listed by the open segment
at once, and by one of its spans: by the active span if that may continue it, or
by the span that takes it after it has waited. A span can also be told a parent
directly, of which its segment does not learn.
-/

set_option autoImplicit false

namespace TraceAgent.Segment

namespace Parent

theorem listed_iff {parents : List Parent} {key : String × Int} :
    listed parents key ↔ key ∈ parents.map Parent.key := by
  unfold listed
  rw [List.any_eq_true, List.mem_map]
  exact exists_congr fun parent => and_congr_right fun _ => beq_iff_eq

theorem key_mem_addTo (parents : List Parent) (parent : Parent) :
    parent.key ∈ (addTo parents parent).map Parent.key := by
  rw [← listed_iff, listed_addTo, beq_self_eq_true, Bool.or_true]

theorem nodup_addTo {parents : List Parent} (distinct : (parents.map Parent.key).Nodup)
    (parent : Parent) : ((addTo parents parent).map Parent.key).Nodup := by
  rw [addTo_eq]
  split
  next => exact distinct
  next unlisted =>
    have absent : parent.key ∉ parents.map Parent.key := fun member =>
      unlisted (listed_iff.mpr member)
    rw [List.map_append, List.map_singleton]
    exact List.nodup_append_comm.mpr (List.nodup_cons.mpr ⟨absent, distinct⟩)

theorem distinct_append (parents more : List Parent) :
    Parent.distinct (parents ++ more) = more.foldl addTo (Parent.distinct parents) :=
  List.foldl_append

end Parent

end TraceAgent.Segment

namespace TraceAgent.Native

open Segment Propagation

/-- A parent that a span came to list: it arrived with a call or a snapshot, or the span was told
it directly. -/
structure Attachment where
  key : SpanKey
  parent : Parent
  arrived : Bool
  deriving DecidableEq, Repr

/-- The parents that a span came to list, in order and as often as it met them. -/
def Attachment.on (attachments : List Attachment) (key : SpanKey) : List Parent :=
  (attachments.filter (·.key = key)).map (·.parent)

/-- A span lists the one parent that it may have met, unless it lists one with that key. -/
theorem Attachment.foldl_on (attachment : Attachment) (key : SpanKey) (parents : List Parent) :
    (Attachment.on [attachment] key).foldl Parent.addTo parents =
      if attachment.key = key then Parent.addTo parents attachment.parent else parents := by
  unfold Attachment.on
  by_cases here : attachment.key = key <;> simp [here]

theorem OpenSegment.newSpan_parents (opened : OpenSegment) (now : Int) (extension : Extension)
    (role : Role) (name peer : String) :
    (opened.newSpan now extension role name peer).parents =
      ((opened.taken? role).map (·.parent)).toList := by
  unfold newSpan
  cases opened.taken? role with
  | none => rfl
  | some pending => exact Span.continueFrom_parents _ pending.parent extension now

namespace Context

def hosted? (context : Context) (operation : Operation) : Option Attachment :=
  (context.brought? operation).bind fun pending =>
    (context.current.bind (·.host? pending)).map fun index =>
      ⟨context.keyOf index, pending.parent, true⟩

def delivered? (context : Context) (operation : Operation) : Option Attachment :=
  (context.added? operation).bind fun role =>
    (context.waiting?.filter (·.suits role)).map fun pending =>
      ⟨context.keyOf context.spans.length, pending.parent, true⟩

def told? (context : Context) : Operation → Option Attachment
  | .annotate key (.parent parent) =>
      if (context.span? key).isSome then some ⟨key, parent, false⟩ else none
  | _ => none

def attachment? (context : Context) (operation : Operation) : Option Attachment :=
  (context.hosted? operation).or ((context.delivered? operation).or (context.told? operation))

def attachments (context : Context) : List Step → List Attachment
  | [] => []
  | step :: rest =>
      (context.attachment? step.2).toList ++
        (context.perform step.1 step.2).context.attachments rest

variable {context : Context} {moment : Moment} {operation : Operation}

@[simp] theorem parentsOf_settle (context : Context) :
    context.settle.1.parentsOf = context.parentsOf := by
  funext key
  unfold parentsOf
  rw [span?_settle]

theorem parentsOf_edit (key : SpanKey) {change : Span → Span}
    (keeps : ∀ span, (change span).parents = span.parents) :
    (context.modifySpan key change).parentsOf = context.parentsOf := by
  funext other
  unfold parentsOf
  rw [span?_modifySpan]
  split
  · cases context.span? other with
    | none => rfl
    | some span => exact keeps span
  · rfl

/-- Where the reported spans stay, only the spans of the open segment can list something else. -/
theorem parentsOf_of_past {other : Context} (past : other.past = context.past) (key : SpanKey) :
    other.parentsOf key =
      if key.segment = context.past.length then
        ((other.spans[key.index]?).map (·.parents)).getD []
      else context.parentsOf key := by
  unfold parentsOf
  rw [span?_eq, span?_eq, past]
  split <;> rfl

theorem parentsOf_of_spans {other : Context} (past : other.past = context.past)
    (same : ∀ index : Nat, (other.spans[index]?).map (·.parents) =
      (context.spans[index]?).map (·.parents)) : other.parentsOf = context.parentsOf := by
  funext key
  rw [parentsOf_of_past past, same, parentsOf_of_past (rfl : context.past = context.past)]
  split <;> rfl

theorem parents_modify (spans : List Span) {change : Span → Span}
    (keeps : ∀ span, (change span).parents = span.parents) (index other : Nat) :
    ((spans.modify index change)[other]?).map (·.parents) =
      (spans[other]?).map (·.parents) := by
  rw [List.getElem?_modify]
  cases spans[other]? with
  | none => rfl
  | some span => by_cases same : index = other <;> simp [same, keeps]

theorem parentsOf_leave {opened : OpenSegment} (current : context.current = some opened)
    (now : Int) (index : Nat) :
    { context with current := some (opened.leave now index) }.parentsOf = context.parentsOf := by
  refine parentsOf_of_spans rfl fun other => ?_
  rw [spans_of_current current]
  change ((opened.leave now index).spans[other]?).map _ = _
  rw [OpenSegment.spans_leave]
  exact parents_modify opened.spans (fun span => span.leave_parents now) index other

theorem parentsOf_adding {key : SpanKey} (present : (context.span? key).isSome)
    {change : Span → Span} {parent : Parent}
    (adds : ∀ span, (change span).parents = Parent.addTo span.parents parent) (other : SpanKey) :
    (context.modifySpan key change).parentsOf other =
      if key = other then Parent.addTo (context.parentsOf other) parent
      else context.parentsOf other := by
  unfold parentsOf
  rw [span?_modifySpan]
  split
  next same =>
    obtain ⟨span, found⟩ := Option.isSome_iff_exists.mp present
    rw [← same, found]
    exact adds span
  next => rfl

theorem parentsOf_told (key : SpanKey) (parent : Parent) (other : SpanKey) :
    (context.modifySpan key (·.addParent parent)).parentsOf other =
      (Attachment.on (context.told? (.annotate key (.parent parent))).toList other).foldl
        Parent.addTo (context.parentsOf other) := by
  by_cases present : (context.span? key).isSome
  · have told : context.told? (.annotate key (.parent parent)) = some ⟨key, parent, false⟩ :=
      if_pos present
    rw [told, parentsOf_adding present fun _ => rfl]
    exact (Attachment.foldl_on ⟨key, parent, false⟩ other _).symm
  · have told : context.told? (.annotate key (.parent parent)) = none := if_neg present
    have missing : context.span? key = none := by simpa using present
    rw [told]
    unfold parentsOf
    rw [span?_modifySpan]
    split
    next same =>
      rw [← same, missing]
      rfl
    next => rfl

theorem parentsOf_join (pending : Pending) (correlation : Correlation) (extension : Extension)
    (key : SpanKey) :
    (context.join moment pending correlation extension).parentsOf key =
      (Attachment.on ((context.current.bind (·.host? pending)).map fun index =>
        ⟨context.keyOf index, pending.parent, true⟩).toList key).foldl Parent.addTo
          (context.parentsOf key) := by
  have linked : (context.join moment pending correlation extension).spans =
      ((context.opened moment).link moment.now extension pending).spans := rfl
  rw [OpenSegment.link_eq, host?_opened] at linked
  cases host : context.current.bind (·.host? pending) with
  | none =>
    rw [host] at linked
    have same : (context.join moment pending correlation extension).parentsOf =
        context.parentsOf := by
      refine parentsOf_of_spans rfl fun index => ?_
      rw [linked, ← context.spans_opened moment]
    rw [same]
    rfl
  | some index =>
    rw [host] at linked
    obtain ⟨opened, current, here⟩ := Option.bind_eq_some_iff.mp host
    obtain ⟨span, top, _⟩ := OpenSegment.host?_eq_some.mp here
    obtain ⟨_, _, lookup⟩ := OpenSegment.top?_eq_some.mp top
    have present : (context.span? (context.keyOf index)).isSome := by
      rw [span?_eq, keyOf, if_pos rfl, spans_of_current current, lookup]
      rfl
    have same : (context.join moment pending correlation extension).parentsOf =
        (context.modifySpan (context.keyOf index)
          (·.continueFrom pending.parent extension moment.now)).parentsOf := by
      refine parentsOf_of_spans ?_ fun other => ?_
      · rw [past_modifySpan]
        exact (if_pos rfl).symm
      · rw [linked, spans_modifySpan, keyOf, if_pos rfl, ← context.spans_opened moment]
        rfl
    rw [same, parentsOf_adding present
      fun span => span.continueFrom_parents pending.parent extension moment.now]
    exact (Attachment.foldl_on ⟨_, pending.parent, true⟩ key _).symm

theorem parentsOf_fresh (context : Context) :
    context.parentsOf (context.keyOf context.spans.length) = [] := by
  rw [parentsOf_keyOf, List.getElem?_eq_none (Nat.le_refl _)]
  rfl

theorem parentsOf_of_more {other : Context} {span : Span} (past : other.past = context.past)
    (spans : other.spans = context.spans ++ [span]) (key : SpanKey) :
    other.parentsOf key =
      if context.keyOf context.spans.length = key then span.parents
      else context.parentsOf key := by
  rw [parentsOf_of_past past, spans, getElem?_concat]
  obtain ⟨segment, index⟩ := key
  simp only [keyOf, SpanKey.mk.injEq]
  by_cases here : segment = context.past.length
  · rw [if_pos here, parentsOf_of_past (rfl : context.past = context.past), if_pos here]
    by_cases last : index = context.spans.length
    · rw [if_pos last, if_pos ⟨here.symm, last.symm⟩]
      rfl
    · rw [if_neg last, if_neg fun same => last same.2.symm]
  · rw [if_neg here, if_neg fun same => here same.1.symm]

theorem parentsOf_create (role : Role) (name peer : String) (key : SpanKey) :
    (context.createSpan moment role name peer).1.parentsOf key =
      (Attachment.on (context.delivered? (.create role name peer)).toList key).foldl Parent.addTo
        (context.parentsOf key) := by
  unfold delivered?
  rw [added?_create moment]
  cases shares : (context.opened moment).shared? role with
  | some index =>
    have same : (context.createSpan moment role name peer).1.parentsOf = context.parentsOf := by
      refine parentsOf_of_spans rfl fun other => ?_
      rw [createSpan_of_shared name peer shares, ← context.spans_opened moment]
      refine parents_modify _ (fun span => ?_) index other
      split <;> rfl
    rw [same]
    rfl
  | none =>
    have spans : (context.createSpan moment role name peer).1.spans = context.spans ++
        [(context.opened moment).newSpan moment.now context.extension role name peer] := by
      rw [createSpan_of_not_shared name peer shares, ← context.spans_opened moment]
      rfl
    have taken : (context.opened moment).taken? role = context.waiting?.filter (·.suits role) := by
      rw [OpenSegment.taken?, pending_opened]
    have past : (context.createSpan moment role name peer).1.past = context.past := rfl
    rw [parentsOf_of_more past spans, OpenSegment.newSpan_parents, taken]
    change _ = (Attachment.on ((context.waiting?.filter (·.suits role)).map _).toList key).foldl _ _
    cases context.waiting?.filter (·.suits role) with
    | none =>
      split
      next new =>
        rw [← new, parentsOf_fresh]
        rfl
      next => rfl
    | some pending =>
      refine Eq.trans ?_ (Attachment.foldl_on ⟨_, pending.parent, true⟩ key _).symm
      dsimp only
      split
      next new =>
        rw [← new, parentsOf_fresh]
        rfl
      next => rfl

theorem perform_of_brought {pending : Pending} (brought : context.brought? operation = some pending)
    (moment : Moment) :
    ∃ correlation extension, context.perform moment operation =
        { context := context.join moment pending correlation extension, result := .ok .done } ∧
      context.added? operation = none ∧ context.told? operation = none := by
  cases operation with
  | extract carrier =>
    obtain ⟨valid, same⟩ := Option.ite_none_right_eq_some.mp brought
    cases same
    exact ⟨_, _, congrArg (Effect.mk · (.ok .done) none) (extract_of_valid valid), rfl, rfl⟩
  | resume snapshot =>
    obtain ⟨anchor, found, rfl⟩ := Option.map_eq_some_iff.mp brought
    obtain ⟨anchored, valid⟩ := Option.filter_eq_some_iff.mp found
    have trusted : snapshot.isValid := by
      unfold Snapshot.isValid
      rw [anchored]
      exact valid
    exact ⟨_, _, congrArg (Effect.mk · (.ok .done) none) (resume_of_valid anchored trusted), rfl, rfl⟩
  | _ => cases brought

theorem extract_of_unbrought {carrier : Carrier}
    (brought : context.brought? (.extract carrier) = none) :
    context.extract moment carrier = context := by
  refine if_neg fun valid => ?_
  have brings : context.brought? (.extract carrier) = some ⟨.ofCarrier carrier, true⟩ :=
    if_pos valid
  rw [brings] at brought
  cases brought

theorem resume_of_unbrought {snapshot : Snapshot}
    (brought : context.brought? (.resume snapshot) = none) :
    context.resume moment snapshot = context := by
  refine resume_of_invalid fun valid => ?_
  have ignored : snapshot.anchor.filter (·.isValid) = none := Option.map_eq_none_iff.mp brought
  unfold Snapshot.isValid at valid
  cases anchored : snapshot.anchor with
  | none =>
    rw [anchored] at valid
    cases valid
  | some anchor =>
    rw [anchored] at valid ignored
    exact Option.filter_eq_none_iff.mp ignored anchor rfl valid

theorem parentsOf_of_kept {after : Context} (none : context.attachment? operation = none)
    (kept : after.parentsOf = context.parentsOf) (key : SpanKey) :
    after.parentsOf key =
      (Attachment.on (context.attachment? operation).toList key).foldl Parent.addTo
        (context.parentsOf key) := by
  rw [none, kept]
  rfl

/-- What each span lists after an operation. -/
theorem parentsOf_perform (context : Context) (moment : Moment) (operation : Operation)
    (key : SpanKey) :
    (context.perform moment operation).context.parentsOf key =
      (Attachment.on (context.attachment? operation).toList key).foldl Parent.addTo
        (context.parentsOf key) := by
  cases brought : context.brought? operation with
  | some pending =>
    obtain ⟨correlation, extension, performed, added, told⟩ := perform_of_brought brought moment
    unfold attachment? hosted? delivered?
    rw [performed, brought, added, told, Option.bind_none, Option.or_none, Option.or_none]
    exact parentsOf_join pending correlation extension key
  | none =>
    have homeless : context.hosted? operation = none := by
      unfold hosted?
      rw [brought]
      rfl
    have attached : context.attachment? operation =
        (context.delivered? operation).or (context.told? operation) := by
      unfold attachment?
      rw [homeless, Option.none_or]
    cases operation with
    | create role name peer =>
      have created : (context.delivered? (.create role name peer)).or none =
          context.delivered? (.create role name peer) := Option.or_none
      rw [attached]
      change _ = (Attachment.on (Option.or _ none).toList key).foldl _ _
      rw [created]
      exact parentsOf_create role name peer key
    | stop span =>
      refine parentsOf_of_kept attached ?_ key
      unfold perform
      dsimp only
      cases stopped : context.stopSpan moment.now span with
      | error => rfl
      | ok after =>
        obtain ⟨opened, index, rest, current, _, _, rfl⟩ := stopSpan_eq_ok.mp stopped
        exact (parentsOf_settle _).trans (parentsOf_leave current moment.now index)
    | extract carrier =>
      exact parentsOf_of_kept attached (congrArg parentsOf (extract_of_unbrought brought)) key
    | resume snapshot =>
      exact parentsOf_of_kept attached (congrArg parentsOf (resume_of_unbrought brought)) key
    | prepare spanKey =>
      refine parentsOf_of_kept attached ?_ key
      unfold perform attempt
      dsimp only
      cases prepared : context.prepareAsync spanKey with
      | error => rfl
      | ok after =>
        obtain ⟨_, rfl⟩ := prepareAsync_eq_ok.mp prepared
        exact parentsOf_edit spanKey fun _ => rfl
    | finish spanKey =>
      refine parentsOf_of_kept attached ?_ key
      unfold perform attempt
      dsimp only
      cases finished : context.finishAsync moment.now spanKey with
      | error => rfl
      | ok after =>
        obtain ⟨_, rfl⟩ := finishAsync_eq_ok.mp finished
        exact (parentsOf_settle _).trans (parentsOf_edit spanKey fun _ => rfl)
    | annotate spanKey remark =>
      cases remark with
      | parent parent =>
        rw [attached]
        exact parentsOf_told spanKey parent key
      | _ =>
        refine parentsOf_of_kept attached ?_ key
        refine parentsOf_edit spanKey fun _ => ?_
        rfl
    | applyFlags spanKey extension =>
      exact parentsOf_of_kept attached
        (parentsOf_edit spanKey fun span => span.applyFlags_parents extension moment.now) key
    | asyncStop span =>
      refine parentsOf_of_kept attached ?_ key
      cases span with
      | foreign => rfl
      | _ => exact parentsOf_settle _
    | _ => exact parentsOf_of_kept attached rfl key

theorem Evolves.distinct {before after : Segment} (evolves : Evolves before after)
    (distinct : (before.parents.map Parent.key).Nodup) :
    (after.parents.map Parent.key).Nodup := by
  cases evolves with
  | kept _ _ parents => exact parents ▸ distinct
  | linked parent same =>
    rw [same, Segment.parents_link]
    exact Parent.nodup_addTo distinct parent

theorem linked_of_brought {pending : Pending} (brought : context.brought? operation = some pending)
    (moment : Moment) :
    (context.perform moment operation).report = none ∧
      (context.perform moment operation).context.current.map (·.segment) =
        some ((context.opened moment).segment.link pending.parent) := by
  obtain ⟨correlation, extension, performed, _⟩ := perform_of_brought brought moment
  rw [performed]
  exact ⟨rfl, congrArg some (OpenSegment.segment_link _ moment.now extension pending)⟩

/-- A parent that arrived on a span was brought along by the operation or waited before it. -/
theorem source_of_attachment {attachment : Attachment}
    (attached : context.attachment? operation = some attachment) (arrived : attachment.arrived) :
    attachment.key.segment = context.past.length ∧
      ∃ pending, pending.parent = attachment.parent ∧
        (context.brought? operation = some pending ∨ context.waiting? = some pending) := by
  rcases Option.or_eq_some_iff.mp attached with hosted | ⟨_, others⟩
  · obtain ⟨pending, brought, found⟩ := Option.bind_eq_some_iff.mp hosted
    obtain ⟨index, _, rfl⟩ := Option.map_eq_some_iff.mp found
    exact ⟨rfl, pending, rfl, .inl brought⟩
  · rcases Option.or_eq_some_iff.mp others with delivered | ⟨_, told⟩
    · obtain ⟨role, _, found⟩ := Option.bind_eq_some_iff.mp delivered
      obtain ⟨pending, taken, rfl⟩ := Option.map_eq_some_iff.mp found
      exact ⟨rfl, pending, rfl, .inr (Option.filter_eq_some_iff.mp taken).1⟩
    · unfold told? at told
      split at told
      next =>
        obtain ⟨_, same⟩ := Option.ite_none_right_eq_some.mp told
        rw [← Option.some.inj same] at arrived
        cases arrived
      next => cases told

/-- A parent that waits after an operation was brought along by it or waited before. -/
theorem source_of_waiting {pending : Pending}
    (waits : (context.perform moment operation).context.waiting? = some pending) :
    context.brought? operation = some pending ∨ context.waiting? = some pending := by
  cases handed : (context.perform moment operation).report with
  | some report =>
    have change := context.perform_change moment operation
    rw [handed] at change
    unfold waiting? at waits
    rw [change.closes] at waits
    cases waits
  | none =>
    rw [(handled handed).waiting] at waits
    rcases Option.or_eq_some_iff.mp waits with left | ⟨_, stayed⟩
    · exact .inl (Option.filter_eq_some_iff.mp left).1
    · exact .inr (Option.filter_eq_some_iff.mp stayed).1

end Context

namespace Journal

variable {journal : Journal}

/-- The bookkeeping of parents in a journal whose spans met these parents. A segment lists
parents that differ in their keys, and is in the trace of the first; a span lists the parents
that it met, each key once; and a parent that arrived on a span, or that waits for one, is listed
by the segment of that span, or by the open one. -/
structure Referenced (journal : Journal) (met : List Attachment) : Prop where
  distinct : ∀ home segment, journal.segment? home = some segment →
    (segment.parents.map Parent.key).Nodup
  traced : ∀ home segment, journal.segment? home = some segment → segment.Traced
  spans : ∀ key, journal.context.parentsOf key = Parent.distinct (Attachment.on met key)
  arrived : ∀ attachment ∈ met, attachment.arrived →
    ∃ segment, journal.segment? attachment.key.segment = some segment ∧
      attachment.parent.key ∈ segment.parents.map Parent.key
  waiting : ∀ pending, journal.context.waiting? = some pending →
    ∃ opened, journal.context.current = some opened ∧
      pending.parent.key ∈ opened.segment.parents.map Parent.key

namespace Referenced

variable {met : List Attachment}

theorem begin (config : AgentConfig) (moment : Moment) :
    Referenced (Journal.begin config moment) [] where
  distinct := by
    intro home segment found
    unfold segment? at found
    split at found <;> cases found
    exact .nil
  traced := IsTraced.begin config moment
  spans := by
    intro key
    have idle : (Journal.begin config moment).context.span? key = none := by
      rw [Context.span?_eq]
      split <;> rfl
    rw [Context.parentsOf, idle]
    rfl
  arrived := fun _ => (nomatch ·)
  waiting := fun _ => (nomatch ·)

theorem distinct_opened (referenced : journal.Referenced met) (moment : Moment) :
    ((journal.context.opened moment).segment.parents.map Parent.key).Nodup := by
  rcases journal.segment?_opened moment with known | new
  · exact referenced.distinct _ _ known
  · rw [new]
    exact .nil

/-- A parent that an operation brings along or that waits before it is listed by the segment that
is open before it, wherever this is found afterwards. -/
theorem listed_after (referenced : journal.Referenced met) (step : Step) {pending : Pending}
    (source : journal.context.brought? step.2 = some pending ∨
      journal.context.waiting? = some pending) :
    ∃ segment, (journal.step step).segment? journal.reports.length = some segment ∧
      pending.parent.key ∈ segment.parents.map Parent.key := by
  rcases source with brought | waits
  · obtain ⟨report, current⟩ := Context.linked_of_brought brought step.1
    refine ⟨(journal.context.opened step.1).segment.link pending.parent, ?_, ?_⟩
    · rw [journal.segment?_step_open, report]
      exact current
    · rw [Segment.parents_link]
      exact Parent.key_mem_addTo _ pending.parent
  · obtain ⟨opened, current, listed⟩ := referenced.waiting pending waits
    have found : journal.segment? journal.reports.length = some opened.segment := by
      unfold segment?
      rw [if_pos rfl, current]
      rfl
    obtain ⟨after, here, follows⟩ := journal.follows_step step found
    exact ⟨after, here, (follows.parents.map Parent.key).subset listed⟩

theorem step (referenced : journal.Referenced met) (consistent : journal.Consistent)
    (step : Step) :
    (journal.step step).Referenced (met ++ (journal.context.attachment? step.2).toList) where
  distinct := by
    intro home segment found
    rcases segment?_step_cases found with before | evolves
    · exact referenced.distinct home segment before
    · exact evolves.distinct (referenced.distinct_opened step.1)
  traced := IsTraced.step referenced.traced step
  spans := by
    intro key
    have performed := journal.context.parentsOf_perform step.1 step.2 key
    rw [referenced.spans, ← Parent.distinct_append] at performed
    exact performed.trans (congrArg Parent.distinct (by simp [Attachment.on]))
  arrived := by
    intro attachment member arrived
    rcases List.mem_append.mp member with known | new
    · obtain ⟨segment, found, listed⟩ := referenced.arrived attachment known arrived
      obtain ⟨after, here, follows⟩ := journal.follows_step step found
      exact ⟨after, here, (follows.parents.map Parent.key).subset listed⟩
    · obtain ⟨home, pending, same, source⟩ :=
        Context.source_of_attachment (Option.mem_toList.mp new) arrived
      rw [home, consistent.ordinal, ← same]
      exact referenced.listed_after step source
  waiting := by
    intro pending waits
    obtain ⟨segment, found, listed⟩ :=
      referenced.listed_after step (Context.source_of_waiting waits)
    -- Something waits, so the segment is open still.
    obtain ⟨opened, current, _⟩ := Option.bind_eq_some_iff.mp waits
    have change := journal.context.perform_change step.1 step.2
    rw [journal.segment?_step_open] at found
    cases handed : (journal.context.perform step.1 step.2).report with
    | some report =>
      rw [handed] at change
      cases current.symm.trans change.closes
    | none =>
      rw [handed, current] at found
      cases found
      exact ⟨opened, current, listed⟩

theorem run (referenced : journal.Referenced met) (consistent : journal.Consistent)
    (steps : List Step) :
    (journal.run steps).Referenced (met ++ journal.context.attachments steps) := by
  induction steps generalizing journal met with
  | nil =>
    rw [Context.attachments, List.append_nil]
    exact referenced
  | cons step rest ih =>
    rw [Context.attachments, ← List.append_assoc]
    exact ih (referenced.step consistent step) (consistent.step step)

end Referenced

/-- Every segment of a run is found in a later state behind more steps: with its id, with its
parents and perhaps more of them, and in its trace if it had a parent then or has none now. What
was reported does not change. -/
theorem follows_run (traced : journal.IsTraced) (steps : List Step) :
    journal.reports <+: (journal.run steps).reports ∧
      ∀ home segment, journal.segment? home = some segment →
        ∃ after, (journal.run steps).segment? home = some after ∧ segment.Follows after ∧
          (segment.parents ≠ [] → after.traceId = segment.traceId) := by
  induction steps generalizing journal with
  | nil =>
    exact ⟨List.prefix_refl _, fun home segment found =>
      ⟨segment, found, .refl segment, fun _ => rfl⟩⟩
  | cons step rest ih =>
    obtain ⟨reports, later⟩ := ih (traced.step step)
    refine ⟨(List.prefix_append _ _).trans reports, fun home segment found => ?_⟩
    obtain ⟨next, foundNext, first⟩ := journal.follows_step step found
    obtain ⟨after, foundAfter, second, kept⟩ := later home next foundNext
    refine ⟨after, foundAfter, first.trans second, fun joined => ?_⟩
    have same := first.traceId_eq (traced home segment found)
      (traced.step step home next foundNext) (.inl joined)
    have joinedNext : next.parents ≠ [] := fun orphan =>
      joined (List.prefix_nil.mp (orphan ▸ first.parents))
    exact (kept joinedNext).trans same

/-- The bookkeeping of parents in every run, and how each segment goes on from any point of it. -/
theorem run_referenced (config : AgentConfig) (moment : Moment) (steps more : List Step) :
    let journal := (Journal.begin config moment).run steps
    journal.Referenced ((Context.begin config moment).attachments steps) ∧
      journal.reports <+: (journal.run more).reports ∧
      ∀ home segment, journal.segment? home = some segment →
        ∃ after, (journal.run more).segment? home = some after ∧ segment.Follows after ∧
          (segment.parents ≠ [] → after.traceId = segment.traceId) := by
  intro journal
  have referenced : journal.Referenced ((Context.begin config moment).attachments steps) :=
    (Referenced.begin config moment).run (Consistent.begin config moment) steps
  exact ⟨referenced, follows_run referenced.traced more⟩

/-- Of two parents that have to wait, the entry span meets the second. -/
example : Context.callee.attachments Context.twoCalls =
    [⟨⟨0, 0⟩, .ofCarrier (Context.caller "trace-b" "segment-b"), true⟩] := by decide

end Journal

end TraceAgent.Native
