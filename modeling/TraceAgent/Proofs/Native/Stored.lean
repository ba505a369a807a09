import TraceAgent.Proofs.Native.Fresh
import TraceAgent.Proofs.Native.Store

/-! The store that holds a context, and what the writes of each operation come to.

A context has its active spans in a segment, and a span that awaits its
completion holds its context. So in the store of a context the branches for a
segment or a context that is missing are not taken, and each operation leads to
the store of the context on which it was performed.
-/

set_option autoImplicit false

namespace TraceAgent

theorem Segment.foldl_archive (segment : Segment) (records : List Segment.SpanRecord) :
    records.foldl archive segment = { segment with spans := segment.spans ++ records } := by
  induction records generalizing segment with
  | nil => rw [List.append_nil]; rfl
  | cons record rest ih =>
    rw [List.foldl_cons, ih]
    unfold archive
    rw [List.append_assoc]
    rfl

namespace Native

open Segment Propagation

theorem OpenSegment.leave_eq_ite (opened : OpenSegment) (now : Int) (index : Nat) :
    opened.leave now index =
      let left := opened.modifySpan index (·.leave now)
      if (left.spans[index]?).any Span.isLeft then
        { left with active := left.active.tail, finished := left.finished ++ [index] }
      else left := by
  unfold OpenSegment.leave
  dsimp only
  cases (opened.modifySpan index (·.leave now)).spans[index]? <;> rfl

/-- The cell of a span, which holds its context as long as it awaits its completion. -/
def Cell.of (span : Span) : Cell := ⟨span, span.isAwaited⟩

namespace Context

variable {context : Context} {reports : List Segment} {opened : OpenSegment} {key : SpanKey}
  {index : Nat} {now : Int} {moment : Moment}

def finished (context : Context) : List Nat := (context.current.map (·.finished)).getD []

def nextId (context : Context) : Nat :=
  match context.current with
  | some opened => opened.spans.length
  | none => (context.past.getLast?.map List.length).getD 0

/-- The store that holds a context which reported these segments. -/
def stored (context : Context) (reports : List Segment) : Store where
  service := context.service
  instanceName := context.instanceName
  segment := context.current.map (·.segment)
  active := context.active.map context.keyOf
  finished := context.finished.map context.keyOf
  nextId := context.nextId
  endpoint := (context.current.bind (·.endpoint)).map context.keyOf
  pending := context.current.bind (·.pending)
  correlation := context.correlation
  extension := context.extension
  outstanding := context.outstanding
  cells := fun key => (context.span? key).map Cell.of
  reports := reports

theorem stored_silent (context : Context) (reports : List Segment) :
    context.stored reports = context.stored (reports ++ (none : Option Segment).toList) :=
  congrArg context.stored (List.append_nil reports).symm

theorem span?_keyOf (current : context.current = some opened) (index : Nat) :
    context.span? (context.keyOf index) = opened.spans[index]? := by
  rw [span?_eq, spans_of_current current]
  exact if_pos rfl

theorem modifySpan_keyOf (context : Context) (index : Nat) (change : Span → Span) :
    context.modifySpan (context.keyOf index) change =
      { context with current := context.current.map (·.modifySpan index change) } := if_pos rfl

theorem modifySpan_modifySpan (context : Context) (key : SpanKey) (first second : Span → Span) :
    (context.modifySpan key first).modifySpan key second =
      context.modifySpan key (second ∘ first) := by
  unfold modifySpan
  by_cases here : key.segment = context.past.length
  · simp only [here, if_true]
    cases context.current <;> simp [OpenSegment.modifySpan, List.modify_modify_eq]
  · simp [here, List.modify_modify_eq, Function.comp_def]

def ready (context : Context) (moment : Moment) : Context :=
  { context with current := some (context.opened moment) }

theorem nextId_modifySpan (change : Span → Span) :
    (context.modifySpan key change).nextId = context.nextId := by
  unfold modifySpan nextId
  by_cases here : key.segment = context.past.length
  · simp only [here, if_true]
    cases context.current <;> simp
  · simp only [here, if_false]
    cases context.current with
    | some opened => rfl
    | none =>
      simp only [List.getLast?_eq_getElem?, List.length_modify, List.getElem?_modify]
      cases context.past[context.past.length - 1]? with
      | none => rfl
      | some spans => by_cases last : key.segment = context.past.length - 1 <;> simp [last]

theorem stored_modifySpan (context : Context) (reports : List Segment) (key : SpanKey)
    (change : Span → Span) :
    (context.modifySpan key change).stored reports =
      { context.stored reports with
        cells := fun other =>
          if key = other then (context.span? other).map (Cell.of ∘ change)
          else (context.span? other).map Cell.of } := by
  have cells : ∀ other, ((context.modifySpan key change).span? other).map Cell.of =
      if key = other then (context.span? other).map (Cell.of ∘ change)
      else (context.span? other).map Cell.of := by
    intro other
    rw [span?_modifySpan]
    split <;> simp
  unfold stored
  simp only [cells, nextId_modifySpan, outstanding_modifySpan]
  unfold modifySpan active finished keyOf
  by_cases here : key.segment = context.past.length
  · simp only [here, if_true]
    cases context.current <;> rfl
  · simp only [here, if_false, List.length_modify]

theorem Cell.of_edit {change : Span → Span}
    (keeps : ∀ span, (change span).completion = span.completion) (span : Span) :
    Cell.of (change span) = { Cell.of span with span := change span } := by
  unfold Cell.of Span.isAwaited
  rw [keeps]

/-- Writing the cell of a changed span changes the span. -/
theorem setCell_stored {span : Span} (found : context.span? key = some span)
    (change : Span → Span) :
    (context.stored reports).setCell key (.of (change span)) =
      (context.modifySpan key change).stored reports := by
  rw [stored_modifySpan]
  unfold Store.setCell
  congr 1
  funext other
  by_cases same : key = other
  · rw [if_pos same, if_pos same, ← same, found]
    rfl
  · rw [if_neg same, if_neg same]
    rfl

theorem edit_stored (context : Context) (reports : List Segment) (key : SpanKey)
    {change : Span → Span} (keeps : ∀ span, (change span).completion = span.completion) :
    (context.stored reports).edit key change = (context.modifySpan key change).stored reports := by
  have cell : (context.stored reports).cells key = (context.span? key).map Cell.of := rfl
  unfold Store.edit
  cases found : context.span? key with
  | some span =>
    rw [cell, found]
    dsimp only [Option.map_some]
    rw [← setCell_stored found change, Cell.of_edit keeps]
    rfl
  | none =>
    -- There is nothing to change, in the store or in the context.
    rw [cell, found, stored_modifySpan]
    dsimp only [Option.map_none]
    unfold stored
    congr 1
    funext other
    split
    next same => rw [← same, found]; rfl
    next => rfl

theorem ensureSegment_stored (context : Context) (reports : List Segment) (moment : Moment) :
    (context.stored reports).ensureSegment moment = (context.ready moment).stored reports := by
  have spans : (context.ready moment).spans = context.spans := context.spans_opened moment
  have same : (context.ready moment).span? = context.span? := by
    funext key
    rw [span?_eq, span?_eq, spans]
    rfl
  unfold stored
  rw [same]
  unfold Store.ensureSegment ready nextId opened active finished
  cases context.current <;> rfl

theorem top?_stored (context : Context) (reports : List Segment) :
    (context.stored reports).top? =
      context.top?.map fun top => (context.keyOf top.1, Cell.of top.2) := by
  unfold Store.top? stored top? active
  cases current : context.current with
  | none => rfl
  | some opened =>
    dsimp only [Option.map_some, Option.getD_some, Option.bind_some]
    unfold OpenSegment.top?
    cases opened.active with
    | nil => rfl
    | cons index rest =>
      simp only [List.map_cons, List.head?_cons, Option.bind_some, span?_keyOf current]
      cases opened.spans[index]? <;> rfl

theorem continueOn_stored (context : Context) (reports : List Segment) (now : Int) (key : SpanKey)
    (parent : Parent) :
    (context.stored reports).continueOn now key parent =
      ((context.modifySpan key (·.continueFrom parent context.extension now)).stored reports,
        .ok ()) := by
  have added := edit_stored context reports key fun span => span.addParent_completion parent
  have extension :
      ((context.modifySpan key (·.addParent parent)).stored reports).extension =
        context.extension := by
    rw [stored_modifySpan]
    rfl
  unfold Store.continueOn Store.addParent
  dsimp only
  rw [added, extension, edit_stored _ _ _ fun span => span.applyFlags_completion _ now,
    modifySpan_modifySpan]
  rfl

theorem join_stored (context : Context) (reports : List Segment) (moment : Moment)
    (pending : Pending) (correlation : Correlation) (extension : Extension) :
    (context.stored reports).join moment pending correlation extension =
      ((context.join moment pending correlation extension).stored reports, .ok ()) := by
  -- The context with all that came along, before a span takes the parent.
  let joined : Context :=
    { context with
      current := some
        { context.opened moment with
          segment := (context.opened moment).segment.link pending.parent }
      correlation := context.correlation.merge correlation
      extension := extension }
  have written : (context.stored reports).join moment pending correlation extension =
      (joined.stored reports).offer moment.now pending := by
    unfold Store.join
    rw [ensureSegment_stored]
    rfl
  rw [written]
  unfold Store.offer
  rw [top?_stored]
  unfold join OpenSegment.link
  change _ = (Context.stored { joined with current := some _ } reports, _)
  have top : joined.top? = OpenSegment.top?
      { context.opened moment with
        segment := (context.opened moment).segment.link pending.parent } := rfl
  rw [top]
  dsimp only
  cases OpenSegment.top? _ with
  | none => rfl
  | some host =>
    obtain ⟨index, span⟩ := host
    dsimp only [Option.map_some, Cell.of]
    by_cases suits : pending.suits span.role
    · rw [if_pos suits, if_pos suits, continueOn_stored, modifySpan_keyOf]
      rfl
    · rw [if_neg suits, if_neg suits]
      rfl

theorem shared?_stored (context : Context) (reports : List Segment) (moment : Moment)
    (role : Role) :
    ((context.ready moment).stored reports).shared? role =
      ((context.opened moment).shared? role).map context.keyOf := by
  have top : (context.ready moment).top? = (context.opened moment).top? := rfl
  unfold Store.shared? OpenSegment.shared?
  rw [top?_stored, top]
  cases (context.opened moment).top? with
  | none => rfl
  | some top =>
    dsimp only [Option.map_some, Cell.of]
    split <;> rfl

def seedling (context : Context) (moment : Moment) (role : Role) (name peer : String) : Span where
  role := role
  parent := (context.opened moment).active.head?
  name := name
  peer := peer
  start := moment.now

def grown (context : Context) (moment : Moment) (span : Span) (pending : Option Pending) :
    Context :=
  { context with
    current := some
      { context.opened moment with
        spans := (context.opened moment).spans ++ [span]
        pending := pending } }

theorem span?_grown (context : Context) (moment : Moment) (span : Span) (pending : Option Pending)
    (other : SpanKey) :
    (context.grown moment span pending).span? other =
      if context.keyOf (context.opened moment).spans.length = other then some span
      else (context.ready moment).span? other := by
  rw [span?_eq, span?_eq]
  change (if other.segment = context.past.length then
      ((context.opened moment).spans ++ [span])[other.index]? else _) =
    if _ then _ else if other.segment = context.past.length then
      (context.opened moment).spans[other.index]? else _
  obtain ⟨segment, index⟩ := other
  unfold keyOf
  rw [getElem?_concat]
  by_cases here : segment = context.past.length
  · subst here
    rw [if_pos rfl, if_pos rfl]
    by_cases last : index = (context.opened moment).spans.length
    · rw [if_pos last, if_pos (last ▸ rfl)]
    · rw [if_neg last, if_neg fun same => last (SpanKey.mk.inj same).2.symm]
  · rw [if_neg here, if_neg here, if_neg fun same => here (SpanKey.mk.inj same).1.symm]
    rfl

theorem modifySpan_grown (context : Context) (moment : Moment) (span : Span)
    (pending : Option Pending) (change : Span → Span) :
    (context.grown moment span pending).modifySpan
        (context.keyOf (context.opened moment).spans.length) change =
      context.grown moment (change span) pending := by
  have last : ((context.opened moment).spans ++ [span]).modify
      (context.opened moment).spans.length change =
        (context.opened moment).spans ++ [change span] :=
    List.modifyTailIdx_add (List.modifyHead change) 0 (context.opened moment).spans [span]
  refine (modifySpan_keyOf (context.grown moment span pending) _ change).trans ?_
  unfold grown
  rw [← last]
  rfl

theorem grown_stored (context : Context) (reports : List Segment) (moment : Moment) (span : Span)
    (pending : Option Pending) :
    (context.grown moment span pending).stored reports =
      { ((context.ready moment).stored reports).setCell
          (context.keyOf (context.opened moment).spans.length) (.of span) with
        nextId := (context.opened moment).spans.length + 1
        pending := pending } := by
  have cells : ∀ other, ((context.grown moment span pending).span? other).map Cell.of =
      if context.keyOf (context.opened moment).spans.length = other then some (.of span)
      else ((context.ready moment).span? other).map Cell.of := by
    intro other
    rw [span?_grown]
    split <;> rfl
  have number : (context.grown moment span pending).nextId =
      (context.opened moment).spans.length + 1 := List.length_append
  unfold stored
  simp only [cells, number]
  rfl

theorem nextKey_stored (numbered : reports.length = context.past.length) (moment : Moment) :
    ((context.ready moment).stored reports).nextKey =
      context.keyOf (context.opened moment).spans.length :=
  congrArg (SpanKey.mk · _) numbered

theorem allocate_stored (numbered : reports.length = context.past.length) (moment : Moment)
    (role : Role) (name peer : String) :
    ((context.ready moment).stored reports).allocate moment.now role name peer =
      (context.grown moment (context.seedling moment role name peer)
        (context.opened moment).pending).stored reports := by
  have parent : ((context.ready moment).stored reports).active.head?.map SpanKey.index =
      (context.opened moment).active.head? := by
    change (((context.opened moment).active.map context.keyOf).head?).map _ = _
    cases (context.opened moment).active <;> rfl
  unfold Store.allocate
  rw [parent, nextKey_stored numbered, grown_stored]
  rfl

theorem attach_stored (context : Context) (reports : List Segment) (moment : Moment)
    (role : Role) (name peer : String) :
    ((context.grown moment (context.seedling moment role name peer)
        (context.opened moment).pending).stored reports).attach moment.now role
          (context.keyOf (context.opened moment).spans.length) =
      ((context.grown moment
          ((context.opened moment).newSpan moment.now context.extension role name peer)
          (if ((context.opened moment).taken? role).isSome then none
            else (context.opened moment).pending)).stored reports, .ok ()) := by
  have pending : ((context.grown moment (context.seedling moment role name peer)
      (context.opened moment).pending).stored reports).pending.filter (·.suits role) =
        (context.opened moment).taken? role := rfl
  unfold Store.attach OpenSegment.newSpan
  rw [pending]
  cases (context.opened moment).taken? role with
  | none => rfl
  | some taken =>
    dsimp only
    have cleared : { (context.grown moment (context.seedling moment role name peer)
          (context.opened moment).pending).stored reports with pending := none } =
        (context.grown moment (context.seedling moment role name peer) none).stored reports := rfl
    rw [cleared, continueOn_stored, modifySpan_grown]
    rfl

theorem endpointWith_stored (context : Context) (reports : List Segment) (moment : Moment)
    (span : Span) (pending : Option Pending) (role : Role) :
    ((context.grown moment span pending).stored reports).endpointWith role
        (context.keyOf (context.opened moment).spans.length) =
      ((context.opened moment).endpointWith role).map context.keyOf := by
  unfold Store.endpointWith OpenSegment.endpointWith
  have endpoint : ((context.grown moment span pending).stored reports).endpoint =
      (context.opened moment).endpoint.map context.keyOf := rfl
  rw [endpoint]
  cases (context.opened moment).endpoint with
  | none => rfl
  | some current =>
    dsimp only [Option.map_some]
    by_cases last : current = (context.opened moment).spans.length
    -- The new span is named in any case.
    · rw [last]
      split <;> split <;> rfl
    · have other : ((context.grown moment span pending).stored reports).isEntryAt
          (context.keyOf current) = (context.opened moment).isEntryAt current := by
        have apart : context.keyOf (context.opened moment).spans.length ≠ context.keyOf current :=
          fun same => last (SpanKey.mk.inj same).2.symm
        have lookup : (context.ready moment).span? (context.keyOf current) =
            (context.opened moment).spans[current]? := span?_keyOf rfl current
        change (((context.grown moment span pending).span? _).map Cell.of).any _ = _
        rw [span?_grown, if_neg apart, lookup]
        unfold OpenSegment.isEntryAt
        cases (context.opened moment).spans[current]? <;> rfl
      rw [other]
      split <;> rfl

/-- A new span that is written step by step is the one that is added at once. -/
theorem createSpan_stored (numbered : reports.length = context.past.length) (moment : Moment)
    (role : Role) (name peer : String) :
    (context.stored reports).createSpan moment role name peer =
      ((context.createSpan moment role name peer).1.stored reports,
        .ok (context.createSpan moment role name peer).2) := by
  unfold Store.createSpan
  dsimp only
  rw [ensureSegment_stored, shared?_stored]
  cases shares : (context.opened moment).shared? role with
  | some index =>
    rw [createSpan_of_shared name peer shares]
    dsimp only [Option.map_some]
    have entered (change : Span → Span) :
        (context.ready moment).modifySpan (context.keyOf index) change =
          { context with current := some ((context.opened moment).modifySpan index change) } :=
      if_pos rfl
    rw [edit_stored, entered]
    · rfl
    · intro span
      split <;> rfl
  | none =>
    rw [createSpan_of_not_shared name peer shares, ← context.spans_opened moment]
    dsimp only [Option.map_none]
    -- The span is written and takes the parent that waits before it is named and active.
    rw [allocate_stored numbered, nextKey_stored numbered, attach_stored]
    dsimp only
    rw [endpointWith_stored]
    rfl

def Unlisted (context : Context) : Prop :=
  ∀ opened, context.current = some opened → opened.segment.spans = []

theorem Unlisted.modifySpan (unlisted : context.Unlisted) (key : SpanKey)
    (change : Span → Span) : (context.modifySpan key change).Unlisted := by
  intro opened current
  rw [current_modifySpan] at current
  split at current
  · obtain ⟨before, wasOpen, rfl⟩ := Option.map_eq_some_iff.mp current
    exact unlisted before wasOpen
  · exact unlisted opened current

theorem segment_stored (reports : List Segment) (current : context.current = some opened) :
    (context.stored reports).segment = some opened.segment := by
  unfold stored
  rw [current]
  rfl

theorem records_stored (reports : List Segment) (current : context.current = some opened) :
    (context.stored reports).records = opened.records := by
  have finished : (context.stored reports).finished = opened.finished.map context.keyOf := by
    unfold stored Context.finished
    rw [current]
    rfl
  unfold Store.records OpenSegment.records
  rw [finished, List.filterMap_map]
  congr 1
  funext index
  change ((context.span? (context.keyOf index)).map Cell.of).map _ = _
  rw [span?_keyOf current]
  cases opened.spans[index]? <;> rfl

theorem isDone_stored (context : Context) (reports : List Segment) :
    ((context.stored reports).active ≠ [] ∨ (context.stored reports).outstanding ≠ 0) ↔
      ¬ context.IsDone := by
  unfold IsDone
  change (context.active.map context.keyOf ≠ [] ∨ _) ↔ _
  rw [Decidable.not_and_iff_or_not, ne_eq, List.map_eq_nil_iff]
  rfl

theorem close_stored (current : context.current = some opened) (unlisted : context.Unlisted) :
    (context.stored reports).records.foldl Segment.archive opened.segment = opened.close := by
  rw [records_stored reports current, Segment.foldl_archive, unlisted opened current]
  rfl

theorem settle_stored (unlisted : context.Unlisted) (reports : List Segment) :
    (context.stored reports).settle =
      context.settle.1.stored (reports ++ context.settle.2.toList) := by
  unfold Store.settle
  by_cases done : context.IsDone
  · rw [if_neg fun waits => (isDone_stored context reports).mp waits done]
    cases current : context.current with
    | none =>
      rw [settle_of_none current]
      have closed : (context.stored reports).segment = none := by
        unfold stored
        rw [current]
        rfl
      rw [closed]
      exact context.stored_silent reports
    | some opened =>
      -- The cells of the spans stay where they are as the records are made.
      have kept : context.settle.1.span? = context.span? := context.span?_settle
      have idle : (context.stored reports).active = [] := congrArg (List.map _) done.1
      have number : (context.stored reports).nextId = opened.spans.length := by
        unfold stored nextId
        rw [current]
      rw [segment_stored reports current]
      dsimp only
      rw [close_stored current unlisted, idle, number]
      rw [settle_of_done current done] at kept ⊢
      unfold stored
      rw [kept]
      congr 1
      unfold nextId
      simp
  · rw [if_pos ((isDone_stored context reports).mpr done), settle_of_not_done done]
    exact context.stored_silent reports

theorem leave_stored (reports : List Segment) (current : context.current = some opened)
    (now : Int) (index : Nat) :
    (context.stored reports).leave now (context.keyOf index) =
      Context.stored { context with current := some (opened.leave now index) } reports := by
  let left := opened.modifySpan index (·.leave now)
  let touched : Context := { context with current := some left }
  have changed : context.modifySpan (context.keyOf index) (·.leave now) = touched := by
    rw [modifySpan_keyOf, current]
    rfl
  have isLeft : ((touched.stored reports).cells (context.keyOf index)).any (·.span.isLeft) =
      (left.spans[index]?).any Span.isLeft := by
    have lookup : touched.span? (context.keyOf index) = left.spans[index]? := span?_keyOf rfl index
    change ((touched.span? _).map Cell.of).any _ = _
    rw [lookup]
    cases left.spans[index]? <;> rfl
  unfold Store.leave
  dsimp only
  rw [edit_stored _ _ _ fun span => span.leave_completion now, changed, isLeft,
    OpenSegment.leave_eq_ite]
  by_cases last : (left.spans[index]?).any Span.isLeft
  · have active : (touched.stored reports).active.tail = left.active.tail.map context.keyOf :=
      List.map_tail.symm
    have finished : (touched.stored reports).finished ++ [context.keyOf index] =
        (left.finished ++ [index]).map context.keyOf := by
      rw [List.map_append]
      rfl
    rw [if_pos last, if_pos last, active, finished]
    rfl
  · rw [if_neg last, if_neg last]

theorem stopSpan_stored (unlisted : context.Unlisted) (reports : List Segment) (now : Int)
    (span : SpanArgument) :
    (context.stored reports).stopSpan now span =
      match context.stopSpan now span with
      | .ok stopped =>
          (stopped.context.stored (reports ++ stopped.report.toList), .ok stopped.idle)
      | .error error => (context.stored reports, .error error) := by
  have stack : (context.stored reports).active = context.active.map context.keyOf := rfl
  unfold Store.stopSpan stopSpan active at *
  cases current : context.current with
  | none =>
    rw [stack, current]
    cases span <;> rfl
  | some opened =>
    rw [stack, current]
    dsimp only [Option.map_some, Option.getD_some]
    cases active : opened.active with
    | nil => cases span <;> rfl
    | cons index rest =>
      cases span with
      | foreign => rfl
      | other spanId => rfl
      | own key =>
        rw [List.map_cons]
        dsimp only
        by_cases same : SpanArgument.own key = .own (context.keyOf index)
        · have kept : Unlisted { context with current := some (opened.leave now index) } := by
            rintro _ ⟨⟩
            rw [OpenSegment.segment_leave]
            exact unlisted opened current
          have idle (left : OpenSegment) :
              (left.active.map context.keyOf).isEmpty = left.active.isEmpty := by
            cases left.active <;> rfl
          rw [if_pos same, if_pos same, leave_stored reports current, settle_stored kept]
          exact congrArg (fun idle => (_, Except.ok idle)) (idle _)
        · rw [if_neg same, if_neg same]

theorem asyncStop_stored (unlisted : context.Unlisted) (reports : List Segment)
    (span : SpanArgument) :
    (context.stored reports).asyncStop span =
      match context.asyncStop span with
      | .ok completed => (completed.1.stored (reports ++ completed.2.toList), .ok ())
      | .error error => (context.stored reports, .error error) := by
  cases span with
  | foreign => rfl
  | own _ | other _ =>
    have settled := settle_stored (show Unlisted
      { context with outstanding := context.outstanding - 1 } from unlisted) reports
    exact congrArg (·, _) settled

theorem prepareAsync_stored (context : Context) (reports : List Segment) (key : SpanKey) :
    (context.stored reports).prepareAsync true key =
      match context.prepareAsync key with
      | .ok prepared => (prepared.stored reports, .ok ())
      | .error error => (context.stored reports, .error error) := by
  have cell : (context.stored reports).cells key = (context.span? key).map Cell.of := rfl
  unfold Store.prepareAsync prepareAsync
  rw [if_pos rfl, cell]
  cases found : context.span? key with
  | none => rfl
  | some span =>
    dsimp only [Option.map_some, Cell.of]
    cases span.completion with
    | onStop =>
      have prepared : (context.stored reports).setCell key ⟨span.awaiting, true⟩ =
          (context.modifySpan key (·.awaiting)).stored reports := setCell_stored found (·.awaiting)
      dsimp only
      rw [prepared]
      rfl
    | awaited | completed => rfl

theorem finishAsync_stored (unlisted : context.Unlisted) (reports : List Segment) (now : Int)
    (key : SpanKey) :
    (context.stored reports).finishAsync now key =
      match context.finishAsync now key with
      | .ok completed => (completed.1.stored (reports ++ completed.2.toList), .ok ())
      | .error error => (context.stored reports, .error error) := by
  have cell : (context.stored reports).cells key = (context.span? key).map Cell.of := rfl
  unfold Store.finishAsync finishAsync
  rw [cell]
  cases found : context.span? key with
  | none => rfl
  | some span =>
    dsimp only [Option.map_some, Cell.of]
    cases completion : span.completion with
    | awaited =>
      have ended : (context.stored reports).setCell key ⟨span.completedAt now, false⟩ =
          (context.modifySpan key (·.completedAt now)).stored reports :=
        setCell_stored found (·.completedAt now)
      -- A span that awaits its completion holds its context, so that it is not missed.
      have holds : span.isAwaited = true := beq_iff_eq.mpr completion
      dsimp only
      rw [if_pos holds, ended, asyncStop_stored (unlisted.modifySpan key _)]
      rfl
    | onStop | completed => rfl

theorem endpointName_stored (reports : List Segment) (current : context.current = some opened) :
    (context.stored reports).endpointName = opened.endpointName := by
  have cell : (context.stored reports).endpoint.bind (context.stored reports).cells =
      (opened.endpoint.bind (opened.spans[·]?)).map Cell.of := by
    unfold stored
    rw [current]
    dsimp only [Option.bind_some]
    cases opened.endpoint with
    | none => rfl
    | some index => exact congrArg (Option.map Cell.of) (span?_keyOf current index)
  unfold Store.endpointName OpenSegment.endpointName
  rw [cell]
  cases opened.endpoint.bind (opened.spans[·]?) <;> rfl

/-- An active span has a segment, so that a carrier is written as far as it is prepared. -/
theorem inject_stored (context : Context) (reports : List Segment) (now : Int)
    (carrier : Carrier) :
    (context.stored reports).inject now carrier =
      match context.inject now carrier with
      | .ok prepared => (prepared, .ok ())
      | .error error => (carrier, .error error) := by
  unfold Store.inject inject
  rw [top?_stored]
  unfold top?
  cases current : context.current with
  | none => rfl
  | some opened =>
    dsimp only [Option.bind_some]
    cases opened.top? with
    | none => rfl
    | some top =>
      obtain ⟨index, span⟩ := top
      dsimp only [Option.map_some, Cell.of]
      rw [segment_stored reports current, endpointName_stored reports current]
      split
      · rfl
      · split <;> rfl

theorem capture_stored (context : Context) (reports : List Segment) :
    (context.stored reports).capture = context.capture := by
  unfold Store.capture capture
  rw [top?_stored]
  unfold top?
  cases current : context.current with
  | none => rfl
  | some opened =>
    dsimp only [Option.bind_some]
    cases opened.top? with
    | none => rfl
    | some top =>
      dsimp only [Option.map_some]
      rw [segment_stored reports current, endpointName_stored reports current]
      rfl

theorem activeSpan_stored (sound : context.Sound) (reports : List Segment) :
    (context.stored reports).activeSpan = context.activeSpan := by
  have stack : (context.stored reports).active = context.active.map context.keyOf := rfl
  unfold Store.activeSpan
  rw [stack]
  cases active : context.active with
  | nil => exact (activeSpan_of_idle active).symm
  | cons index rest => exact (sound.activeSpan_eq_ok.mpr ⟨index, rest, active, rfl⟩).symm

theorem extract_stored (context : Context) (reports : List Segment) (moment : Moment)
    (carrier : Carrier) :
    (context.stored reports).extract moment carrier =
      ((context.extract moment carrier).stored reports, .ok ()) := by
  unfold Store.extract extract
  split
  · exact join_stored context reports moment _ _ _
  · rfl

theorem resume_stored (context : Context) (reports : List Segment) (moment : Moment)
    (snapshot : Snapshot) :
    (context.stored reports).resume moment snapshot =
      ((context.resume moment snapshot).stored reports, .ok ()) := by
  unfold Store.resume resume
  cases snapshot.anchor with
  | none => rfl
  | some anchor =>
    dsimp only
    split
    · exact join_stored context reports moment _ _ _
    · rfl

end Context

end Native

end TraceAgent
