import TraceAgent.Proofs.Native.Run

/-! Segments and traces under other ids.

A native context hands ids on, compares those of segments with each other, and
looks whether an id is empty. So it does the same under other ids, as long as
these keep segments apart and only the empty id is empty. Where other segments
were reported before, its own are counted from there.
-/

set_option autoImplicit false

namespace TraceAgent

open Propagation Segment

/-- Other ids for segments and traces. -/
structure Renaming where
  segment : String → String
  trace : String → String
  apart : Function.Injective segment
  segment_eq_empty : ∀ id, segment id = "" ↔ id = ""
  trace_eq_empty : ∀ id, trace id = "" ↔ id = ""

variable (ids : Renaming)

def Renaming.same : Renaming where
  segment := id
  trace := id
  apart := Function.injective_id
  segment_eq_empty := fun _ => Iff.rfl
  trace_eq_empty := fun _ => Iff.rfl

def TraceId.rename : TraceId → TraceId
  | begun id => .begun (ids.trace id)
  | received id => .received (ids.trace id)

@[simp] theorem TraceId.id_rename (traceId : TraceId) :
    (traceId.rename ids).id = ids.trace traceId.id := by
  cases traceId <;> rfl

@[simp] theorem TraceId.isReceived_rename (traceId : TraceId) :
    (traceId.rename ids).isReceived = traceId.isReceived := by
  cases traceId <;> rfl

theorem Renaming.segment_bne (id : String) : (ids.segment id != "") = (id != "") := by
  rw [Bool.eq_iff_iff, bne_iff_ne, bne_iff_ne]
  exact not_congr (ids.segment_eq_empty id)

theorem Renaming.trace_bne (id : String) : (ids.trace id != "") = (id != "") := by
  rw [Bool.eq_iff_iff, bne_iff_ne, bne_iff_ne]
  exact not_congr (ids.trace_eq_empty id)

namespace Propagation

def Origin.rename (origin : Origin) : Origin :=
  { origin with traceId := ids.trace origin.traceId, segmentId := ids.segment origin.segmentId }

def Carrier.rename (carrier : Carrier) : Carrier :=
  { carrier with origin := carrier.origin.rename ids }

def Anchor.rename (anchor : Anchor) : Anchor :=
  { anchor with traceId := anchor.traceId.rename ids, segmentId := ids.segment anchor.segmentId }

def Snapshot.rename (snapshot : Snapshot) : Snapshot :=
  { snapshot with anchor := snapshot.anchor.map (·.rename ids) }

theorem Snapshot.anchor_rename (snapshot : Snapshot) :
    (snapshot.rename ids).anchor = snapshot.anchor.map (·.rename ids) := rfl

@[simp] theorem Carrier.isValid_rename (carrier : Carrier) :
    (carrier.rename ids).isValid = carrier.isValid := by
  unfold isValid rename Origin.isValid Origin.rename
  rw [ids.trace_bne, ids.segment_bne]

@[simp] theorem Anchor.isValid_rename (anchor : Anchor) :
    (anchor.rename ids).isValid = anchor.isValid := by
  unfold isValid rename
  rw [TraceId.id_rename, ids.trace_bne, ids.segment_bne]

end Propagation

namespace Segment

def Parent.rename (parent : Parent) : Parent :=
  { parent with traceId := ids.trace parent.traceId, segmentId := ids.segment parent.segmentId }

def SpanRecord.rename (record : SpanRecord) : SpanRecord :=
  { record with parents := record.parents.map (·.rename ids) }

def Remark.renameIds : Remark → Remark
  | .parent other => .parent (other.rename ids)
  | remark => remark

theorem Parent.same_rename (first second : Parent) :
    (first.rename ids).same (second.rename ids) = first.same second := by
  unfold same key rename
  rw [Bool.eq_iff_iff, beq_iff_eq, beq_iff_eq, Prod.mk.injEq, Prod.mk.injEq, ids.apart.eq_iff]

theorem Parent.addTo_rename (parents : List Parent) (parent : Parent) :
    (addTo parents parent).map (·.rename ids) =
      addTo (parents.map (·.rename ids)) (parent.rename ids) := by
  have known : (parents.map (·.rename ids)).any (parent.rename ids).same =
      parents.any parent.same := by
    rw [List.any_map]
    exact congrArg parents.any (funext fun other => same_rename ids parent other)
  unfold addTo
  rw [known]
  split
  · rfl
  · rw [List.map_append]
    rfl

end Segment

def Segment.rename (segment : Segment) : Segment :=
  { segment with
    id := ids.segment segment.id
    traceId := segment.traceId.rename ids
    parents := segment.parents.map (·.rename ids)
    spans := segment.spans.map (·.rename ids) }

theorem Segment.link_rename (segment : Segment) (parent : Parent) :
    (segment.link parent).rename ids = (segment.rename ids).link (parent.rename ids) := by
  have added : (segment.addParent parent).rename ids =
      (segment.rename ids).addParent (parent.rename ids) := by
    unfold addParent rename
    rw [Parent.addTo_rename]
  unfold link
  rw [← added]
  unfold joinTrace
  rw [show ((segment.addParent parent).rename ids).traceId.isReceived =
    (segment.addParent parent).traceId.isReceived from TraceId.isReceived_rename ids _]
  split <;> rfl

namespace Native

def Moment.rename (moment : Moment) : Moment :=
  { moment with segmentId := ids.segment moment.segmentId, traceId := ids.trace moment.traceId }

theorem Moment.now_rename (moment : Moment) : (moment.rename ids).now = moment.now := rfl

def Pending.rename (pending : Pending) : Pending :=
  { pending with parent := pending.parent.rename ids }

namespace Span

def rename (span : Span) : Span := { span with parents := span.parents.map (·.rename ids) }

variable (span : Span) (now : Int) (extension : Extension) (parent : Parent)

theorem leave_rename : (span.leave now).rename ids = (span.rename ids).leave now := by
  unfold leave
  change _ = if 1 < span.depth then _ else _
  split <;> rfl

theorem addParent_rename :
    (span.addParent parent).rename ids = (span.rename ids).addParent (parent.rename ids) := by
  unfold addParent rename
  rw [Parent.addTo_rename]

theorem applyFlags_rename :
    (span.applyFlags extension now).rename ids = (span.rename ids).applyFlags extension now := by
  unfold applyFlags
  cases extension.latency? now <;> cases extension.skipAnalysis <;> rfl

theorem continueFrom_rename :
    (span.continueFrom parent extension now).rename ids =
      (span.rename ids).continueFrom (parent.rename ids) extension now := by
  unfold continueFrom
  rw [applyFlags_rename, addParent_rename]

theorem annotate_rename (remark : Remark) :
    (span.annotate now remark).rename ids = (span.rename ids).annotate now (remark.renameIds ids) := by
  cases remark with
  | parent parent => exact span.addParent_rename ids parent
  | _ => rfl

end Span

namespace OpenSegment

def rename (opened : OpenSegment) : OpenSegment :=
  { opened with
    segment := opened.segment.rename ids
    spans := opened.spans.map (·.rename ids)
    pending := opened.pending.map (·.rename ids) }

variable (opened : OpenSegment) (now : Int) (extension : Extension) (role : Role)
  (name peer : String) (index : Nat)

theorem getElem?_rename :
    (opened.rename ids).spans[index]? = (opened.spans[index]?).map (·.rename ids) :=
  List.getElem?_map

theorem active_rename : (opened.rename ids).active = opened.active := rfl

theorem top?_rename :
    (opened.rename ids).top? = opened.top?.map fun top => (top.1, top.2.rename ids) := by
  unfold top?
  rw [active_rename]
  cases opened.active with
  | nil => rfl
  | cons index rest =>
    dsimp only
    rw [getElem?_rename]
    cases opened.spans[index]? <;> rfl

theorem modifySpan_rename {change twin : Span → Span}
    (same : ∀ span, (change span).rename ids = twin (span.rename ids)) :
    (opened.modifySpan index change).rename ids = (opened.rename ids).modifySpan index twin := by
  exact congrArg (fun spans => { opened.rename ids with spans })
    (map_modify (·.rename ids) same opened.spans index)

theorem shared?_rename : (opened.rename ids).shared? role = opened.shared? role := by
  unfold shared?
  rw [top?_rename]
  cases opened.top? <;> rfl

theorem reenter_rename :
    (opened.reenter index role name).rename ids = (opened.rename ids).reenter index role name := by
  refine opened.modifySpan_rename ids index fun span => ?_
  split <;> rfl

theorem taken?_rename :
    (opened.rename ids).taken? role = (opened.taken? role).map (·.rename ids) := by
  unfold taken? rename
  cases opened.pending with
  | none => rfl
  | some pending =>
    change (if pending.suits role then some (pending.rename ids) else none) =
      (if pending.suits role then some pending else none).map _
    split <;> rfl

theorem endpointWith_rename : (opened.rename ids).endpointWith role = opened.endpointWith role := by
  have entry : ∀ index, (opened.rename ids).isEntryAt index = opened.isEntryAt index := by
    intro index
    unfold isEntryAt
    rw [getElem?_rename]
    cases opened.spans[index]? <;> rfl
  unfold endpointWith
  simp only [entry]
  unfold rename
  rw [List.length_map]

theorem newSpan_rename :
    (opened.newSpan now extension role name peer).rename ids =
      (opened.rename ids).newSpan now extension role name peer := by
  unfold newSpan
  rw [taken?_rename]
  cases opened.taken? role with
  | none => rfl
  | some pending => exact Span.continueFrom_rename ids _ now extension pending.parent

theorem push_rename :
    (opened.push now extension role name peer).rename ids =
      (opened.rename ids).push now extension role name peer := by
  have length : (opened.rename ids).spans.length = opened.spans.length := List.length_map _
  unfold push
  rw [endpointWith_rename, taken?_rename, ← newSpan_rename, length]
  unfold rename
  rw [List.map_append, Option.isSome_map]
  split <;> rfl

theorem enter_rename :
    (opened.rename ids).enter now extension role name peer =
      ((opened.enter now extension role name peer).1.rename ids,
        (opened.enter now extension role name peer).2) := by
  unfold enter
  rw [shared?_rename]
  cases opened.shared? role with
  | some index =>
    dsimp only
    rw [reenter_rename]
  | none =>
    have length : (opened.rename ids).spans.length = opened.spans.length := List.length_map _
    dsimp only
    rw [push_rename, length]

theorem leave_rename :
    (opened.leave now index).rename ids = (opened.rename ids).leave now index := by
  have left := @modifySpan_rename ids opened index (·.leave now) (·.leave now)
    fun span => span.leave_rename ids now
  unfold leave
  dsimp only
  rw [← left, getElem?_rename]
  cases (opened.modifySpan index (·.leave now)).spans[index]? with
  | none => rfl
  | some span =>
    change _ = if span.isLeft then _ else _
    dsimp only
    split <;> rfl

theorem endpointName_rename : (opened.rename ids).endpointName = opened.endpointName := by
  have endpoint : (opened.rename ids).endpoint = opened.endpoint := rfl
  unfold endpointName
  rw [endpoint]
  cases opened.endpoint with
  | none => rfl
  | some index =>
    rw [Option.bind_some, Option.bind_some, getElem?_rename]
    cases opened.spans[index]? <;> rfl

theorem host?_rename (pending : Pending) :
    (opened.rename ids).host? (pending.rename ids) = opened.host? pending := by
  unfold host?
  rw [top?_rename]
  cases opened.top? with
  | none => rfl
  | some top =>
    change ((if pending.suits top.2.role then some (top.1, top.2.rename ids) else none).map _) =
      (if pending.suits top.2.role then some top else none).map _
    split <;> rfl

theorem link_rename (pending : Pending) :
    (opened.link now extension pending).rename ids =
      (opened.rename ids).link now extension (pending.rename ids) := by
  have segment := opened.segment.link_rename ids pending.parent
  rw [link_eq, link_eq, host?_rename]
  cases opened.host? pending with
  | none =>
    change _ = { opened.rename ids with
      segment := (opened.segment.rename ids).link (pending.parent.rename ids)
      pending := some (pending.rename ids) }
    rw [← segment]
    rfl
  | some index =>
    have spans := @modifySpan_rename ids opened index
      (·.continueFrom pending.parent extension now)
      (·.continueFrom (pending.parent.rename ids) extension now)
      fun span => span.continueFrom_rename ids now extension pending.parent
    dsimp only
    change _ = { (opened.rename ids).modifySpan index
      (·.continueFrom (pending.parent.rename ids) extension now) with
        segment := (opened.segment.rename ids).link (pending.parent.rename ids) }
    rw [← spans, ← segment]
    rfl

theorem close_rename : opened.close.rename ids = (opened.rename ids).close := by
  have records : opened.records.map (·.rename ids) = (opened.rename ids).records := by
    unfold records
    rw [List.map_filterMap]
    refine congrArg (opened.finished.filterMap ·) (funext fun index => ?_)
    rw [getElem?_rename]
    cases opened.spans[index]? <;> rfl
  unfold close Segment.rename
  rw [records]
  rfl

end OpenSegment

end Native

end TraceAgent
