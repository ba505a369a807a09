import TraceAgent.Native.OpenSegment
import TraceAgent.Proofs.Text.Numeral

/-! The shape that every operation keeps in an open segment.

The active and the finished spans are exactly the spans of the segment, each of
them once, and an active span has been entered more often than left.
-/

set_option autoImplicit false

namespace TraceAgent.Segment

theorem Parent.prefix_addTo (parents : List Parent) (parent : Parent) :
    parents <+: addTo parents parent := by
  unfold addTo
  split
  · exact List.prefix_refl _
  · exact List.prefix_append _ _

theorem Parent.addTo_ne_nil (parents : List Parent) (parent : Parent) :
    addTo parents parent ≠ [] := by
  unfold addTo
  split
  next listed =>
    rintro rfl
    cases listed
  next => exact List.append_ne_nil_of_right_ne_nil _ (List.cons_ne_nil _ _)

theorem parents_link (segment : Segment) (parent : Parent) :
    (segment.link parent).parents = Parent.addTo segment.parents parent := by
  unfold link joinTrace
  split <;> rfl

theorem traceId_link {segment : Segment} (parent : Parent)
    (fresh : ¬ segment.traceId.isReceived) :
    (segment.link parent).traceId = .received parent.traceId := by
  have unjoined : ¬ (segment.addParent parent).traceId.isReceived := fresh
  unfold link joinTrace
  rw [if_neg unjoined]

/-- A segment that has joined a trace stays in it. -/
theorem traceId_link_of_received {segment : Segment} (parent : Parent)
    (joined : segment.traceId.isReceived) :
    (segment.link parent).traceId = segment.traceId := by
  have received : (segment.addParent parent).traceId.isReceived := joined
  unfold link joinTrace
  rw [if_pos received]
  rfl

theorem id_link (segment : Segment) (parent : Parent) : (segment.link parent).id = segment.id := by
  unfold link joinTrace
  split <;> rfl

end TraceAgent.Segment

namespace TraceAgent.Native

open Segment Propagation

/-- Where a span comes from: the span that was active when it was created, and its role. -/
structure Descent where
  parent : Option Nat
  role : Role
  deriving DecidableEq, Repr

namespace Span

@[simp] theorem addParent_depth (span : Span) (parent : Parent) :
    (span.addParent parent).depth = span.depth := rfl

@[simp] theorem addParent_completion (span : Span) (parent : Parent) :
    (span.addParent parent).completion = span.completion := rfl

theorem applyFlags_frame (span : Span) (extension : Extension) (now : Int) :
    ∃ tags skipAnalysis, span.applyFlags extension now = { span with tags, skipAnalysis } := by
  unfold applyFlags addTag
  cases extension.skipAnalysis <;> cases extension.latency? now <;>
    exact ⟨_, _, rfl⟩

@[simp] theorem applyFlags_role (span : Span) (extension : Extension) (now : Int) :
    (span.applyFlags extension now).role = span.role := by
  obtain ⟨_, _, same⟩ := span.applyFlags_frame extension now
  rw [same]

@[simp] theorem applyFlags_depth (span : Span) (extension : Extension) (now : Int) :
    (span.applyFlags extension now).depth = span.depth := by
  obtain ⟨_, _, same⟩ := span.applyFlags_frame extension now
  rw [same]

@[simp] theorem applyFlags_completion (span : Span) (extension : Extension) (now : Int) :
    (span.applyFlags extension now).completion = span.completion := by
  obtain ⟨_, _, same⟩ := span.applyFlags_frame extension now
  rw [same]

@[simp] theorem applyFlags_parents (span : Span) (extension : Extension) (now : Int) :
    (span.applyFlags extension now).parents = span.parents := by
  obtain ⟨_, _, same⟩ := span.applyFlags_frame extension now
  rw [same]

@[simp] theorem continueFrom_role (span : Span) (parent : Parent) (extension : Extension)
    (now : Int) : (span.continueFrom parent extension now).role = span.role := by
  simp only [continueFrom, applyFlags_role, addParent]

@[simp] theorem continueFrom_depth (span : Span) (parent : Parent) (extension : Extension)
    (now : Int) : (span.continueFrom parent extension now).depth = span.depth := by
  simp only [continueFrom, applyFlags_depth, addParent_depth]

@[simp] theorem continueFrom_completion (span : Span) (parent : Parent) (extension : Extension)
    (now : Int) : (span.continueFrom parent extension now).completion = span.completion := by
  simp only [continueFrom, applyFlags_completion, addParent_completion]

@[simp] theorem continueFrom_parents (span : Span) (parent : Parent) (extension : Extension)
    (now : Int) :
    (span.continueFrom parent extension now).parents = Parent.addTo span.parents parent := by
  simp only [continueFrom, applyFlags_parents, addParent]

@[simp] theorem annotate_depth (span : Span) (now : Int) (remark : Remark) :
    (span.annotate now remark).depth = span.depth := by cases remark <;> rfl

@[simp] theorem annotate_completion (span : Span) (now : Int) (remark : Remark) :
    (span.annotate now remark).completion = span.completion := by cases remark <;> rfl

theorem annotate_parents (span : Span) (now : Int) (remark : Remark) :
    span.parents <+: (span.annotate now remark).parents := by
  cases remark with
  | parent parent => exact Parent.prefix_addTo span.parents parent
  | _ => exact List.prefix_refl _

def descent (span : Span) : Descent := ⟨span.parent, span.role⟩

@[simp] theorem applyFlags_descent (span : Span) (extension : Extension) (now : Int) :
    (span.applyFlags extension now).descent = span.descent := by
  obtain ⟨_, _, same⟩ := span.applyFlags_frame extension now
  rw [same]
  rfl

@[simp] theorem continueFrom_descent (span : Span) (parent : Parent) (extension : Extension)
    (now : Int) : (span.continueFrom parent extension now).descent = span.descent := by
  unfold continueFrom
  rw [applyFlags_descent]
  rfl

@[simp] theorem annotate_descent (span : Span) (now : Int) (remark : Remark) :
    (span.annotate now remark).descent = span.descent := by cases remark <;> rfl

@[simp] theorem leave_descent (span : Span) (now : Int) :
    (span.leave now).descent = span.descent := by
  unfold leave
  split <;> rfl

def latencyTags (extension : Extension) (now : Int) : List (String × String) :=
  (extension.latency? now).toList.map fun latency =>
    (Extension.latencyTag, Numeral.text latency)

theorem applyFlags_tags (span : Span) (extension : Extension) (now : Int) :
    (span.applyFlags extension now).tags = span.tags ++ latencyTags extension now := by
  unfold applyFlags latencyTags addTag
  cases extension.skipAnalysis <;> cases extension.latency? now <;> simp

def awaiting (span : Span) : Span := { span with completion := .awaited }

def completedAt (span : Span) (now : Int) : Span :=
  { span with completion := .completed, finish := now }

@[simp] theorem leave_completion (span : Span) (now : Int) :
    (span.leave now).completion = span.completion := by
  unfold leave
  split <;> rfl

@[simp] theorem leave_parents (span : Span) (now : Int) :
    (span.leave now).parents = span.parents := by
  unfold leave
  split <;> rfl

end Span

theorem latencyTags_of_sent {extension : Extension} {now sent : Int}
    (stamped : extension.sentAt = some sent) (arrived : sent ≤ now)
    (fits : Numeral.InWidth 64 (now - sent)) :
    Span.latencyTags extension now = [(Extension.latencyTag, Numeral.text (now - sent))] := by
  have latency : extension.latency? now = some (now - sent) := by
    unfold Extension.latency?
    rw [stamped, Option.map_some, Numeral.wrap_of_inWidth fits]
    exact Option.filter_some_pos (decide_eq_true (Int.sub_nonneg_of_le arrived))
  unfold Span.latencyTags
  rw [latency]
  rfl

namespace OpenSegment

variable {opened : OpenSegment} {now : Int} {extension : Extension} {role : Role}
  {name peer : String} {index : Nat} {change : Span → Span} {pending : Pending}

@[simp] theorem active_modifySpan : (opened.modifySpan index change).active = opened.active := rfl

@[simp] theorem finished_modifySpan :
    (opened.modifySpan index change).finished = opened.finished := rfl

@[simp] theorem spans_modifySpan :
    (opened.modifySpan index change).spans = opened.spans.modify index change := rfl

theorem top?_eq_some {span : Span} :
    opened.top? = some (index, span) ↔
      ∃ rest, opened.active = index :: rest ∧ opened.spans[index]? = some span := by
  unfold top?
  cases active : opened.active with
  | nil => simp
  | cons head rest =>
    simp only [Option.map_eq_some_iff, Prod.mk.injEq, List.cons.injEq]
    constructor
    · rintro ⟨found, lookup, rfl, rfl⟩
      exact ⟨rest, ⟨rfl, rfl⟩, lookup⟩
    · rintro ⟨_, ⟨rfl, _⟩, lookup⟩
      exact ⟨span, lookup, rfl, rfl⟩

/-- The active span that continues a parent at once, if there is one. -/
def host? (opened : OpenSegment) (pending : Pending) : Option Nat :=
  (opened.top?.filter fun top => pending.suits top.2.role).map (·.1)

theorem host?_eq_some :
    opened.host? pending = some index ↔
      ∃ span, opened.top? = some (index, span) ∧ pending.suits span.role := by
  simp [host?, Option.filter_eq_some_iff, and_comm]

/-- A parent goes to the span that continues it at once, or waits in place of any other. -/
theorem link_eq :
    opened.link now extension pending =
      match opened.host? pending with
      | some index =>
          { opened.modifySpan index (·.continueFrom pending.parent extension now) with
            segment := opened.segment.link pending.parent }
      | none =>
          { opened with
            segment := opened.segment.link pending.parent
            pending := some pending } := by
  have same : OpenSegment.top? { opened with segment := opened.segment.link pending.parent } =
      opened.top? := rfl
  unfold link host?
  dsimp only
  rw [same]
  cases opened.top? with
  | none => rfl
  | some top =>
    by_cases suits : pending.suits top.2.role
    · simp [Option.filter, suits, modifySpan]
    · simp [Option.filter, suits]

theorem segment_link (opened : OpenSegment) (now : Int) (extension : Extension)
    (pending : Pending) :
    (opened.link now extension pending).segment = opened.segment.link pending.parent := by
  rw [link_eq]
  split <;> rfl

/-- The numbers of the active and the finished spans are those below the number of spans, and
an active span has entrances that are not left yet. -/
structure Sound (opened : OpenSegment) : Prop where
  numbered : (opened.active ++ opened.finished).Perm (List.range opened.spans.length)
  entered : ∀ index ∈ opened.active, ∃ span, opened.spans[index]? = some span ∧ 0 < span.depth

namespace Sound

theorem begin (moment : Moment) : (OpenSegment.begin moment).Sound where
  numbered := List.Perm.refl _
  entered := fun _ member => absurd member List.not_mem_nil

theorem mem_lt (sound : opened.Sound) (member : index ∈ opened.active ++ opened.finished) :
    index < opened.spans.length :=
  List.mem_range.mp (sound.numbered.mem_iff.mp member)

theorem active_lt (sound : opened.Sound) (member : index ∈ opened.active) :
    index < opened.spans.length := sound.mem_lt (List.mem_append_left _ member)

theorem nodup (sound : opened.Sound) : (opened.active ++ opened.finished).Nodup :=
  sound.numbered.nodup_iff.mpr List.nodup_range

theorem top? (sound : opened.Sound) {rest : List Nat} (active : opened.active = index :: rest) :
    ∃ span, opened.top? = some (index, span) ∧ 0 < span.depth := by
  obtain ⟨span, lookup, positive⟩ := sound.entered index (active ▸ List.mem_cons_self)
  exact ⟨span, top?_eq_some.mpr ⟨rest, active, lookup⟩, positive⟩

theorem of_frame {other : OpenSegment} (sound : opened.Sound)
    (active : other.active = opened.active) (finished : other.finished = opened.finished)
    (spans : other.spans = opened.spans) : other.Sound where
  numbered := by rw [active, finished, spans]; exact sound.numbered
  entered := by rw [active, spans]; exact sound.entered

theorem modifySpan (sound : opened.Sound)
    (keeps : ∀ span, 0 < span.depth → 0 < (change span).depth) :
    (opened.modifySpan index change).Sound where
  numbered := by
    rw [spans_modifySpan, List.length_modify]
    exact sound.numbered
  entered := by
    intro other member
    obtain ⟨span, lookup, positive⟩ := sound.entered other member
    rw [spans_modifySpan, List.getElem?_modify, lookup]
    by_cases same : index = other
    · exact ⟨change span, by simp [same], keeps span positive⟩
    · exact ⟨span, by simp [same], positive⟩

theorem link (sound : opened.Sound) : (opened.link now extension pending).Sound := by
  rw [link_eq]
  split
  next index _ =>
    have changed : (opened.modifySpan index (·.continueFrom pending.parent extension now)).Sound :=
      sound.modifySpan fun span positive => by rwa [Span.continueFrom_depth]
    exact changed.of_frame rfl rfl rfl
  next => exact sound.of_frame rfl rfl rfl

theorem reenter (sound : opened.Sound) : (opened.reenter index role name).Sound := by
  refine sound.modifySpan ?_
  intro span _
  split <;> exact Nat.succ_pos _

end Sound

theorem newSpan_depth : (opened.newSpan now extension role name peer).depth = 1 := by
  unfold newSpan
  cases opened.taken? role with
  | none => rfl
  | some pending => rw [Span.continueFrom_depth]

theorem newSpan_role : (opened.newSpan now extension role name peer).role = role := by
  unfold newSpan
  cases opened.taken? role with
  | none => rfl
  | some pending => rw [Span.continueFrom_role]

theorem newSpan_completion (opened : OpenSegment) (now : Int) (extension : Extension)
    (role : Role) (name peer : String) :
    (opened.newSpan now extension role name peer).completion = .onStop := by
  unfold newSpan
  cases opened.taken? role with
  | none => rfl
  | some pending => rw [Span.continueFrom_completion]

theorem Sound.push (sound : opened.Sound) :
    (opened.push now extension role name peer).Sound where
  numbered := by
    have moved : (opened.spans.length :: (opened.active ++ opened.finished)).Perm
        (opened.active ++ opened.finished ++ [opened.spans.length]) :=
      (List.perm_append_singleton _ _).symm
    change (opened.spans.length :: (opened.active ++ opened.finished)).Perm
      (List.range (opened.spans ++ [_]).length)
    rw [List.length_append, List.length_singleton, List.range_succ]
    exact moved.trans (sound.numbered.append_right _)
  -- The new span is entered once, and the others keep their places in the longer list.
  entered := by
    intro index member
    change index ∈ opened.spans.length :: opened.active at member
    rcases List.mem_cons.mp member with rfl | member
    · refine ⟨opened.newSpan now extension role name peer, ?_, ?_⟩
      · exact List.getElem?_concat_length
      · rw [newSpan_depth]; exact Nat.one_pos
    · obtain ⟨span, lookup, positive⟩ := sound.entered index member
      refine ⟨span, ?_, positive⟩
      exact (List.getElem?_append_left (sound.active_lt member)).trans lookup

theorem Sound.enter (sound : opened.Sound) (now : Int) (extension : Extension) (role : Role)
    (name peer : String) :
    (opened.enter now extension role name peer).1.Sound := by
  unfold OpenSegment.enter
  split
  · exact sound.reenter
  · exact sound.push

theorem shared?_eq_some :
    opened.shared? role = some index ↔
      ∃ span, opened.top? = some (index, span) ∧ span.role = role ∧ role ≠ .inner := by
  unfold shared?
  cases opened.top? with
  | none => simp
  | some top =>
    obtain ⟨found, span⟩ := top
    change (if span.role = role ∧ role ≠ .inner then some found else none) = some index ↔ _
    constructor
    · intro shared
      split at shared
      next shares => cases shared; exact ⟨span, rfl, shares⟩
      next => cases shared
    · rintro ⟨other, ⟨⟩, shares⟩
      exact if_pos shares

theorem segment_enter (opened : OpenSegment) (now : Int) (extension : Extension) (role : Role)
    (name peer : String) :
    (opened.enter now extension role name peer).1.segment = opened.segment := by
  unfold enter
  split <;> rfl

theorem enter_active (opened : OpenSegment) (now : Int) (extension : Extension) (role : Role)
    (name peer : String) :
    ∃ rest, (opened.enter now extension role name peer).1.active =
      (opened.enter now extension role name peer).2 :: rest := by
  unfold enter
  cases shares : opened.shared? role with
  | none => exact ⟨opened.active, rfl⟩
  | some index =>
    obtain ⟨span, top, _⟩ := shared?_eq_some.mp shares
    obtain ⟨rest, active, _⟩ := top?_eq_some.mp top
    exact ⟨rest, active⟩

theorem leave_eq {rest : List Nat} {span : Span} (active : opened.active = index :: rest)
    (lookup : opened.spans[index]? = some span) :
    opened.leave now index =
      if 1 < span.depth then opened.modifySpan index (·.leave now)
      else { opened.modifySpan index (·.leave now) with
        active := rest
        finished := opened.finished ++ [index] } := by
  have changed : (opened.modifySpan index (·.leave now)).spans[index]? = some (span.leave now) := by
    rw [spans_modifySpan, List.getElem?_modify_eq, lookup]
    rfl
  unfold OpenSegment.leave
  simp only [changed]
  by_cases deeper : 1 < span.depth
  · have stays : (span.leave now).isLeft = false := by
      simp only [Span.isLeft, Span.leave, deeper, if_true, beq_eq_false_iff_ne]
      omega
    simp only [stays, deeper, if_true, Bool.false_eq_true, if_false]
  · have leaves : (span.leave now).isLeft = true := by
      simp only [Span.isLeft, Span.leave, deeper, if_false, beq_self_eq_true]
    simp only [leaves, deeper, if_true, if_false, active_modifySpan, active, List.tail_cons,
      finished_modifySpan]

theorem spans_leave : (opened.leave now index).spans = opened.spans.modify index (·.leave now) := by
  unfold leave
  dsimp only
  split
  · split <;> rfl
  · rfl

theorem segment_leave : (opened.leave now index).segment = opened.segment := by
  unfold leave
  dsimp only
  split
  · split <;> rfl
  · rfl

/-- A span that is left stays among the active and the finished ones. -/
theorem leave_perm {rest : List Nat} {span : Span} (active : opened.active = index :: rest)
    (lookup : opened.spans[index]? = some span) :
    ((opened.leave now index).active ++ (opened.leave now index).finished).Perm
      (opened.active ++ opened.finished) := by
  rw [leave_eq active lookup]
  split
  · exact List.Perm.refl _
  · rw [active]
    change (rest ++ (opened.finished ++ [index])).Perm (index :: (rest ++ opened.finished))
    rw [← List.append_assoc]
    exact List.perm_append_singleton _ _

theorem Sound.leave {rest : List Nat} (sound : opened.Sound)
    (active : opened.active = index :: rest) : (opened.leave now index).Sound := by
  obtain ⟨span, lookup, positive⟩ := sound.entered index (active ▸ List.mem_cons_self)
  constructor
  · rw [spans_leave, List.length_modify]
    exact (leave_perm active lookup).trans sound.numbered
  · intro other member
    rw [spans_leave, List.getElem?_modify]
    rw [leave_eq active lookup] at member
    split at member
    -- The span stays active with one entrance less.
    next deeper =>
      obtain ⟨found, foundLookup, foundPositive⟩ := sound.entered other member
      by_cases same : index = other
      · subst same
        refine ⟨span.leave now, by simp [lookup], ?_⟩
        simp only [Span.leave, deeper, if_true]
        omega
      · exact ⟨found, by simp [same, foundLookup], foundPositive⟩
    -- The span is finished, and no other place of the stack holds its number.
    next =>
      have different : index ≠ other := by
        have nodup := sound.nodup
        rw [active, List.cons_append] at nodup
        exact fun same => (List.nodup_cons.mp nodup).1 (List.mem_append_left _ (same ▸ member))
      obtain ⟨found, foundLookup, foundPositive⟩ :=
        sound.entered other (active ▸ List.mem_cons_of_mem _ member)
      exact ⟨found, by simp [different, foundLookup], foundPositive⟩

theorem Sound.active_leave_enter (sound : opened.Sound) (now later : Int) (extension : Extension)
    (role : Role) (name peer : String) :
    ((opened.enter now extension role name peer).1.leave later
      (opened.enter now extension role name peer).2).active = opened.active := by
  unfold OpenSegment.enter
  cases shares : opened.shared? role with
  | none =>
    dsimp only
    have entered : (opened.push now extension role name peer).active =
        opened.spans.length :: opened.active := rfl
    have stored : (opened.push now extension role name peer).spans[opened.spans.length]? =
        some (opened.newSpan now extension role name peer) := List.getElem?_concat_length
    rw [leave_eq entered stored, newSpan_depth, if_neg (Nat.lt_irrefl 1)]
  | some index =>
    dsimp only
    obtain ⟨span, top, _⟩ := shared?_eq_some.mp shares
    obtain ⟨rest, active, lookup⟩ := top?_eq_some.mp top
    obtain ⟨found, here, positive⟩ := sound.entered index (active ▸ List.mem_cons_self)
    cases lookup.symm.trans here
    -- The span was active before, so it has an entrance left.
    have stored : (opened.reenter index role name).spans[index]? =
        some (if role = .entry then span.reenterAs name else span.reenter) := by
      unfold OpenSegment.reenter
      rw [spans_modifySpan, List.getElem?_modify_eq, lookup]
      rfl
    have deeper : 1 < (if role = .entry then span.reenterAs name else span.reenter).depth := by
      split <;> exact Nat.succ_lt_succ positive
    have entered : (opened.reenter index role name).active = index :: rest := active
    rw [leave_eq entered stored, if_pos deeper]
    rfl

/-- A segment in which no span is active has a record of each span when it is closed. -/
theorem Sound.mem_close (sound : opened.Sound) (idle : opened.active = []) {span : Span}
    (lookup : opened.spans[index]? = some span) : span.record index ∈ opened.close.spans := by
  have numbered := sound.numbered
  rw [idle, List.nil_append] at numbered
  obtain ⟨bound, _⟩ := List.getElem?_eq_some_iff.mp lookup
  refine List.mem_filterMap.mpr ⟨index, numbered.mem_iff.mpr (List.mem_range.mpr bound), ?_⟩
  rw [lookup]
  rfl

end OpenSegment

end TraceAgent.Native
