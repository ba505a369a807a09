import TraceAgent.Proofs.Native.Renaming

/-! A native context after other segments and under other ids.

A context cannot tell whether segments were reported before its own, nor how
segments and traces are called. Under other ids, and with its spans counted from
the first of its own segments, each step of it has the same effect.
-/

set_option autoImplicit false

namespace TraceAgent.Native

open Propagation Segment

variable (ids : Renaming) (before : List (List Span))

def SpanKey.after (key : SpanKey) (earlier : Nat) : SpanKey :=
  { key with segment := earlier + key.segment }

theorem SpanKey.after_inj {key other : SpanKey} {earlier : Nat} :
    key.after earlier = other.after earlier ↔ key = other := by
  obtain ⟨segment, index⟩ := key
  obtain ⟨otherSegment, otherIndex⟩ := other
  simp [after]

def SpanArgument.after (earlier : Nat) : SpanArgument → SpanArgument
  | own key => .own (key.after earlier)
  | argument => argument

def Operation.recast (earlier : Nat) : Operation → Operation
  | create role name peer => .create role name peer
  | stop span => .stop (span.after earlier)
  | inject carrier => .inject (carrier.rename ids)
  | extract carrier => .extract (carrier.rename ids)
  | capture => .capture
  | resume snapshot => .resume (snapshot.rename ids)
  | prepare key => .prepare (key.after earlier)
  | finish key => .finish (key.after earlier)
  | annotate key remark => .annotate (key.after earlier) (remark.renameIds ids)
  | applyFlags key extension => .applyFlags (key.after earlier) extension
  | awaitCompletion => .awaitCompletion
  | asyncStop span => .asyncStop (span.after earlier)

def Output.recast (earlier : Nat) : Output → Output
  | done => .done
  | span key => .span (key.after earlier)
  | stopped idle => .stopped idle
  | carrier prepared => .carrier (prepared.rename ids)
  | snapshot captured => .snapshot (captured.rename ids)

/-- A context behind the segments `before`, under other ids. -/
def Context.recast (context : Context) : Context :=
  { context with
    current := context.current.map (·.rename ids)
    past := before ++ context.past.map (·.map (·.rename ids)) }

def Effect.recast (effect : Effect) : Effect where
  context := effect.context.recast ids before
  result := effect.result.map (·.recast ids before.length)
  report := effect.report.map (·.rename ids)

namespace Context

variable (context : Context) (moment : Moment) (key : SpanKey) (now : Int)

theorem current_recast :
    (context.recast ids before).current = context.current.map (·.rename ids) := rfl

@[simp] theorem length_past_recast :
    (context.recast ids before).past.length = before.length + context.past.length := by
  simp [recast]

theorem opens_recast :
    (key.after before.length).segment = (context.recast ids before).past.length ↔
      key.segment = context.past.length := by
  rw [length_past_recast]
  exact Nat.add_left_cancel_iff

theorem opened_recast :
    (context.recast ids before).opened (moment.rename ids) =
      (context.opened moment).rename ids := by
  unfold opened recast
  cases context.current <;> rfl

theorem keyOf_recast (index : Nat) :
    (context.recast ids before).keyOf index = (context.keyOf index).after before.length :=
  congrArg (SpanKey.mk · index) (context.length_past_recast ids before)

theorem top?_recast :
    (context.recast ids before).top? = context.top?.map fun top => (top.1, top.2.rename ids) := by
  unfold top? recast
  cases context.current with
  | none => rfl
  | some opened => exact opened.top?_rename ids

theorem span?_recast :
    (context.recast ids before).span? (key.after before.length) =
      (context.span? key).map (·.rename ids) := by
  -- The open segment stays the open one, and a reported one is looked up behind the others.
  have here := context.opens_recast ids before key
  unfold span?
  by_cases opens : key.segment = context.past.length
  · rw [if_pos (here.mpr opens), if_pos opens]
    unfold recast
    cases context.current with
    | none => rfl
    | some opened => exact opened.getElem?_rename ids key.index
  · rw [if_neg (mt here.mp opens), if_neg opens]
    have past : (context.recast ids before).past[before.length + key.segment]? =
        (context.past[key.segment]?).map (·.map (·.rename ids)) := by
      change (before ++ _)[before.length + key.segment]? = _
      rw [List.getElem?_append_right (Nat.le_add_right _ _), Nat.add_sub_cancel_left,
        List.getElem?_map]
    change ((context.recast ids before).past[before.length + key.segment]?).bind _ = _
    rw [past]
    cases context.past[key.segment]? with
    | none => rfl
    | some spans => exact List.getElem?_map

theorem modifySpan_recast {change twin : Span → Span}
    (same : ∀ span, (change span).rename ids = twin (span.rename ids)) :
    (context.modifySpan key change).recast ids before =
      (context.recast ids before).modifySpan (key.after before.length) twin := by
  have here := context.opens_recast ids before key
  unfold modifySpan
  by_cases opens : key.segment = context.past.length
  · rw [if_pos (here.mpr opens), if_pos opens]
    unfold recast
    cases context.current with
    | none => rfl
    | some opened =>
      exact congrArg (fun current => { context.recast ids before with current := some current })
        (opened.modifySpan_rename ids key.index same)
  · rw [if_neg (mt here.mp opens), if_neg opens]
    have spans := map_modify (·.map (·.rename ids))
      (fun spans : List Span => map_modify (·.rename ids) same spans key.index)
      context.past key.segment
    have past := modify_append before (context.past.map (·.map (·.rename ids))) key.segment
      (·.modify key.index twin)
    exact congrArg (fun past => { context.recast ids before with past })
      ((congrArg (before ++ ·) spans).trans past.symm)

theorem createSpan_recast (role : Role) (name peer : String) :
    (context.recast ids before).createSpan (moment.rename ids) role name peer =
      ((context.createSpan moment role name peer).1.recast ids before,
        (context.createSpan moment role name peer).2.after before.length) := by
  have entered := (context.opened moment).enter_rename ids moment.now context.extension role name
    peer
  have opened := context.opened_recast ids before moment
  refine Prod.ext ?_ ?_
  · change { context.recast ids before with
      current := some (((context.recast ids before).opened (moment.rename ids)).enter moment.now
        context.extension role name peer).1 } = _
    rw [opened, entered]
    rfl
  · change (context.recast ids before).keyOf (((context.recast ids before).opened
      (moment.rename ids)).enter moment.now context.extension role name peer).2 = _
    rw [opened, entered]
    exact context.keyOf_recast ids before _

theorem activeSpan_recast :
    (context.recast ids before).activeSpan =
      context.activeSpan.map (·.after before.length) := by
  unfold activeSpan
  rw [top?_recast]
  cases context.top? with
  | none => rfl
  | some top => exact congrArg Except.ok (context.keyOf_recast ids before top.1)

theorem origin_recast (opened : OpenSegment) (index : Nat) (peer : String) :
    (context.recast ids before).origin (opened.rename ids) index peer =
      (context.origin opened index peer).rename ids := by
  unfold origin Origin.rename
  rw [opened.endpointName_rename]
  change { traceId := (opened.segment.traceId.rename ids).id, segmentId := _, spanId := _,
           service := _, instanceName := _, endpoint := _, address := _ : Origin } = _
  rw [TraceId.id_rename]
  rfl

theorem inject_recast (carrier : Carrier) :
    (context.recast ids before).inject now (carrier.rename ids) =
      (context.inject now carrier).map (·.rename ids) := by
  unfold inject
  rw [current_recast]
  cases context.current with
  | none => rfl
  | some opened =>
    dsimp only [Option.map_some]
    rw [opened.top?_rename]
    cases opened.top? with
    | none => rfl
    | some top =>
      obtain ⟨index, span⟩ := top
      dsimp only [Option.map_some]
      change (if span.role ≠ .exit then _ else if span.peer = "" then _ else _) = _
      split
      · rfl
      · split
        · rfl
        · exact congrArg (fun origin => Except.ok { carrier with
            origin, correlation := context.correlation, extension := context.extension.sentNow now })
            (context.origin_recast ids before opened index span.peer)

theorem capture_recast :
    (context.recast ids before).capture = context.capture.map (·.rename ids) := by
  unfold capture
  rw [current_recast]
  cases context.current with
  | none => rfl
  | some opened =>
    dsimp only [Option.map_some]
    rw [opened.top?_rename]
    cases opened.top? with
    | none => rfl
    | some top =>
      dsimp only [Option.map_some]
      rw [opened.endpointName_rename]
      rfl

theorem join_recast (pending : Pending) (correlation : Correlation) (extension : Extension) :
    (context.recast ids before).join (moment.rename ids) (pending.rename ids) correlation extension =
      (context.join moment pending correlation extension).recast ids before := by
  unfold join
  rw [opened_recast]
  change { context.recast ids before with
    current := some (((context.opened moment).rename ids).link moment.now extension
      (pending.rename ids))
    correlation := context.correlation.merge correlation
    extension := extension } = _
  rw [← OpenSegment.link_rename]
  rfl

theorem extract_recast (carrier : Carrier) :
    (context.recast ids before).extract (moment.rename ids) (carrier.rename ids) =
      (context.extract moment carrier).recast ids before := by
  unfold extract
  rw [Carrier.isValid_rename]
  split
  · exact context.join_recast ids before moment ⟨.ofCarrier carrier, true⟩ _ _
  · rfl

theorem resume_recast (snapshot : Snapshot) :
    (context.recast ids before).resume (moment.rename ids) (snapshot.rename ids) =
      (context.resume moment snapshot).recast ids before := by
  unfold resume
  rw [Snapshot.anchor_rename]
  cases snapshot.anchor with
  | none => rfl
  | some anchor =>
    dsimp only [Option.map_some]
    rw [Anchor.isValid_rename]
    split
    · have parent : Parent.ofAnchor (anchor.rename ids) context.service context.instanceName =
          (Parent.ofAnchor anchor context.service context.instanceName).rename ids := by
        unfold Parent.ofAnchor Anchor.rename Parent.rename
        rw [TraceId.id_rename]
      exact parent ▸ context.join_recast ids before moment
        ⟨.ofAnchor anchor context.service context.instanceName, false⟩ _ _
    · rfl

theorem settle_recast :
    (context.recast ids before).settle =
      (context.settle.1.recast ids before, context.settle.2.map (·.rename ids)) := by
  unfold settle
  rw [current_recast]
  cases current : context.current with
  | none => rfl
  | some opened =>
    dsimp only [Option.map_some]
    change (if opened.active = [] ∧ context.outstanding = 0 then _ else _) = _
    split
    · have past : (context.recast ids before).past ++ [(opened.rename ids).spans] =
          before ++ (context.past ++ [opened.spans]).map (·.map (·.rename ids)) := by
        rw [List.map_append, ← List.append_assoc]
        rfl
      rw [past, ← opened.close_rename]
      rfl
    · rfl

theorem leaveTop_recast (opened : OpenSegment) (index : Nat) :
    (context.recast ids before).leaveTop now (opened.rename ids) index =
      { context := (context.leaveTop now opened index).context.recast ids before
        idle := (context.leaveTop now opened index).idle
        report := (context.leaveTop now opened index).report.map (·.rename ids) } := by
  -- What settles is the context with the segment that was left.
  have left := opened.leave_rename ids now index
  have settled := settle_recast ids before { context with current := some (opened.leave now index) }
  have recasted : { context with current := some (opened.leave now index) }.recast ids before =
      { context.recast ids before with
        current := some ((opened.rename ids).leave now index) } := by
    rw [← left]
    rfl
  rw [recasted] at settled
  unfold leaveTop
  dsimp only
  rw [settled, ← left]
  rfl

theorem stopSpan_recast (span : SpanArgument) :
    (context.recast ids before).stopSpan now (span.after before.length) =
      (context.stopSpan now span).map fun stopped =>
        { context := stopped.context.recast ids before
          idle := stopped.idle
          report := stopped.report.map (·.rename ids) } := by
  have own : ∀ index, span.after before.length =
      .own ((context.recast ids before).keyOf index) ↔ span = .own (context.keyOf index) := by
    intro index
    rw [keyOf_recast]
    cases span <;> simp [SpanArgument.after, SpanKey.after_inj]
  unfold stopSpan
  rw [current_recast]
  cases span with
  | foreign => rfl
  | own key =>
    cases context.current with
    | none => rfl
    | some opened =>
      dsimp only [Option.map_some, SpanArgument.after]
      rw [OpenSegment.active_rename]
      cases opened.active with
      | nil => rfl
      | cons index rest =>
        change (if SpanArgument.after before.length (.own key) = _ then _ else _) = _
        dsimp only
        -- Keys are kept apart, so it is the active span exactly if it was.
        by_cases top : SpanArgument.own key = .own (context.keyOf index)
        · rw [if_pos ((own index).mpr top), if_pos top, leaveTop_recast]
          rfl
        · rw [if_neg (mt (own index).mp top), if_neg top]
          rfl
  | other spanId =>
    cases context.current with
    | none => rfl
    | some opened =>
      dsimp only [Option.map_some, SpanArgument.after]
      rw [OpenSegment.active_rename]
      cases opened.active <;> rfl

theorem complete_recast :
    (context.recast ids before).complete =
      (context.complete.1.recast ids before, context.complete.2.map (·.rename ids)) :=
  settle_recast ids before { context with outstanding := context.outstanding - 1 }

theorem asyncStop_recast (span : SpanArgument) :
    (context.recast ids before).asyncStop (span.after before.length) =
      (context.asyncStop span).map fun after =>
        (after.1.recast ids before, after.2.map (·.rename ids)) := by
  cases span with
  | foreign => rfl
  | own key => exact congrArg Except.ok (context.complete_recast ids before)
  | other spanId => exact congrArg Except.ok (context.complete_recast ids before)

theorem prepareAsync_recast :
    (context.recast ids before).prepareAsync (key.after before.length) =
      (context.prepareAsync key).map (·.recast ids before) := by
  unfold prepareAsync
  rw [span?_recast]
  cases context.span? key with
  | none => rfl
  | some span =>
    have same : (span.rename ids).completion = span.completion := rfl
    dsimp only [Option.map_some]
    rw [same]
    cases span.completion with
    | onStop =>
      have marked := @modifySpan_recast ids before context key
        ({ · with completion := .awaited }) ({ · with completion := .awaited }) fun _ => rfl
      dsimp only
      rw [← marked]
      rfl
    | awaited => rfl
    | completed => rfl

theorem finishAsync_recast :
    (context.recast ids before).finishAsync now (key.after before.length) =
      (context.finishAsync now key).map fun after =>
        (after.1.recast ids before, after.2.map (·.rename ids)) := by
  unfold finishAsync
  rw [span?_recast]
  cases context.span? key with
  | none => rfl
  | some span =>
    have same : (span.rename ids).completion = span.completion := rfl
    dsimp only [Option.map_some]
    rw [same]
    cases span.completion with
    | onStop => rfl
    | completed => rfl
    | awaited =>
      have marked := @modifySpan_recast ids before context key
        ({ · with completion := .completed, finish := now })
        ({ · with completion := .completed, finish := now }) fun _ => rfl
      dsimp only
      rw [← marked]
      exact congrArg Except.ok (complete_recast ids before _)

theorem attempt_recast (change : Except TraceError (Context × Option Segment)) :
    (context.recast ids before).attempt
        (change.map fun after => (after.1.recast ids before, after.2.map (·.rename ids))) =
      (context.attempt change).recast ids before := by
  cases change <;> rfl

/-- An operation has the same effect behind other segments and under other ids. -/
theorem perform_recast (operation : Operation) :
    (context.recast ids before).perform (moment.rename ids)
        (operation.recast ids before.length) =
      (context.perform moment operation).recast ids before := by
  cases operation with
  | create role name peer =>
    unfold perform Operation.recast
    dsimp only
    rw [createSpan_recast]
    rfl
  | stop span =>
    unfold perform Operation.recast
    dsimp only
    rw [Moment.now_rename, stopSpan_recast]
    cases context.stopSpan moment.now span <;> rfl
  | inject carrier =>
    unfold perform Operation.recast
    dsimp only
    change Effect.mk _ (((context.recast ids before).inject moment.now _).map _) none = _
    rw [inject_recast]
    unfold Effect.recast
    dsimp only
    cases context.inject moment.now carrier <;> rfl
  | extract carrier =>
    exact congrArg (Effect.mk · (.ok .done) none) (context.extract_recast ids before moment carrier)
  | capture =>
    unfold perform Operation.recast
    dsimp only
    rw [capture_recast]
    unfold Effect.recast
    dsimp only
    cases context.capture <;> rfl
  | resume snapshot =>
    exact congrArg (Effect.mk · (.ok .done) none) (context.resume_recast ids before moment snapshot)
  | prepare key =>
    unfold perform Operation.recast
    dsimp only
    rw [prepareAsync_recast]
    cases context.prepareAsync key <;> rfl
  | finish key =>
    unfold perform Operation.recast
    dsimp only
    rw [← attempt_recast, ← finishAsync_recast]
    rfl
  | annotate key remark =>
    have annotated := @modifySpan_recast ids before context key (·.annotate moment.now remark)
      (·.annotate moment.now (remark.renameIds ids))
      fun span => span.annotate_rename ids moment.now remark
    exact congrArg (Effect.mk · (.ok .done) none) annotated.symm
  | applyFlags key extension =>
    have flagged := @modifySpan_recast ids before context key
      (·.applyFlags extension moment.now) (·.applyFlags extension moment.now)
      fun span => span.applyFlags_rename ids moment.now extension
    exact congrArg (Effect.mk · (.ok .done) none) flagged.symm
  | awaitCompletion => rfl
  | asyncStop span =>
    unfold perform Operation.recast
    dsimp only
    rw [← attempt_recast, ← asyncStop_recast]

theorem traceId?_recast :
    (context.recast ids before).traceId? = context.traceId?.map ids.trace := by
  unfold traceId?
  change (context.current.map (·.rename ids)).map _ = _
  cases context.current with
  | none => rfl
  | some opened => exact congrArg some (opened.segment.traceId.id_rename ids)

end Context

end TraceAgent.Native
