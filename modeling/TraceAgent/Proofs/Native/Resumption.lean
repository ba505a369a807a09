import TraceAgent.Proofs.Native.Continuation
import TraceAgent.Proofs.Native.TraceAgreement
import TraceAgent.Proofs.Propagation.CorrelationMerge

/-! What becomes of a snapshot once a context continues it.

The context refers to the captured span as a parent of its segment and of its
active span. If no span is active the parent waits, and the span that is created
next refers to it.
-/

set_option autoImplicit false

namespace TraceAgent.Segment

/-- A parent is added behind the others unless one with the same key is there. -/
theorem Parent.addTo_eq (parents : List Parent) (parent : Parent) :
    addTo parents parent = if listed parents parent.key then parents else parents ++ [parent] := by
  by_cases present : listed parents parent.key
  · rw [if_pos present]
    refine if_pos ?_
    obtain ⟨other, member, same⟩ := List.any_eq_true.mp present
    exact List.any_eq_true.mpr ⟨other, member, BEq.symm same⟩
  · rw [if_neg present]
    exact addTo_of_unlisted present

/-- A segment without a parent joins the trace of the first one. -/
theorem Traced.traceId_link {segment : Segment} (traced : segment.Traced) (parent : Parent) :
    (segment.link parent).traceId =
      if segment.parents = [] then .received parent.traceId else segment.traceId := by
  cases traced with
  | begun orphan own =>
    rw [if_pos orphan]
    exact Segment.traceId_link parent own
  | joined first leads trace =>
    have received : segment.traceId.isReceived := by rw [trace]; rfl
    rw [if_neg fun orphan => by rw [orphan] at leads; cases leads]
    exact traceId_link_of_received parent received

end TraceAgent.Segment

namespace TraceAgent.Native

open Segment Propagation

theorem Journal.IsTraced.run {journal : Journal} (traced : journal.IsTraced) (steps : List Step) :
    (journal.run steps).IsTraced := by
  induction steps generalizing journal with
  | nil => exact traced
  | cons step rest ih => exact ih (traced.step step)

namespace Context

variable {context : Context} {moment : Moment} {parent : Parent}

theorem Reachable.traced (reachable : context.Reachable) (moment : Moment) :
    (context.opened moment).segment.Traced := by
  obtain ⟨config, first, steps, rfl⟩ := reachable
  have traced := ((Journal.IsTraced.begin config first).run steps).opened moment
  rw [Journal.context_run] at traced
  exact traced

def referenceTo (context : Context) (anchor : Anchor) : Parent :=
  .ofAnchor anchor context.service context.instanceName

theorem resume_of_valid {snapshot : Snapshot} {anchor : Anchor}
    (anchored : snapshot.anchor = some anchor) (valid : snapshot.isValid) :
    context.resume moment snapshot = context.join moment ⟨context.referenceTo anchor, false⟩
      snapshot.correlation snapshot.extension := by
  unfold Snapshot.isValid at valid
  rw [anchored] at valid
  unfold resume
  rw [anchored]
  exact if_pos valid

theorem resume_of_invalid {snapshot : Snapshot} (invalid : ¬ snapshot.isValid) :
    context.resume moment snapshot = context := by
  unfold Snapshot.isValid at invalid
  unfold resume
  split
  · rfl
  next anchored =>
    rw [anchored] at invalid
    exact if_neg invalid

theorem parentsOf_keyOf (context : Context) (index : Nat) :
    context.parentsOf (context.keyOf index) =
      ((context.spans[index]?).map (·.parents)).getD [] := by
  have here : (context.keyOf index).segment = context.past.length := rfl
  rw [parentsOf, span?_eq, if_pos here]
  rfl

/-- Whatever span is created next takes the parent that waits, and has no other. -/
theorem parentsOf_createSpan (idle : context.active = [])
    (waits : context.waiting? = some ⟨parent, false⟩) (moment : Moment) (role : Role)
    (name peer : String) :
    (context.createSpan moment role name peer).1.parentsOf
      (context.createSpan moment role name peer).2 = [parent] := by
  have alone : (context.opened moment).shared? role = none := by
    unfold OpenSegment.shared? OpenSegment.top?
    rw [active_opened, idle]
  have takes : ((context.opened moment).newSpan moment.now context.extension role name
      peer).parents = [parent] := by
    unfold OpenSegment.newSpan OpenSegment.taken?
    rw [pending_opened, waits]
    exact Span.continueFrom_parents _ parent context.extension moment.now
  rw [createSpan_of_not_shared name peer alone]
  refine (parentsOf_keyOf _ context.spans.length).trans ?_
  rw [← context.spans_opened moment]
  change (Option.map _ ((context.opened moment).spans ++ [_])[_]?).getD [] = _
  rw [List.getElem?_concat_length]
  exact takes

end Context

end TraceAgent.Native
