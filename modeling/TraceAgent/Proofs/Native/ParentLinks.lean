import TraceAgent.Proofs.Native.Run

/-! Which parents the spans of a reported segment list.

A parent that no active span can continue waits for a new span, and one parent
waits at a time: the next that has to wait takes its place. So a segment lists a
parent exactly if the parent found a span at once, or a span that may take it is
created before another parent has to wait.
-/

set_option autoImplicit false

namespace TraceAgent.Segment

def Parent.listed (parents : List Parent) (key : String × Int) : Bool :=
  parents.any (·.key == key)

theorem Parent.listed_addTo (parents : List Parent) (parent : Parent) (key : String × Int) :
    listed (addTo parents parent) key = (listed parents key || parent.key == key) := by
  unfold listed addTo
  split
  next present =>
    -- the parent that is there already has the same key
    obtain ⟨other, member, same⟩ := List.any_eq_true.mp present
    have keys : parent.key = other.key := eq_of_beq same
    cases equal : parent.key == key with
    | false => rw [Bool.or_false]
    | true =>
      rw [Bool.or_true]
      exact List.any_eq_true.mpr ⟨other, member, by rw [← keys]; exact equal⟩
  next => simp

theorem Parent.addTo_of_unlisted {parents : List Parent} {parent : Parent}
    (unlisted : ¬ listed parents parent.key) : addTo parents parent = parents ++ [parent] := by
  refine if_neg fun present => unlisted ?_
  obtain ⟨other, member, same⟩ := List.any_eq_true.mp present
  exact List.any_eq_true.mpr ⟨other, member, BEq.symm same⟩

def lists (segment : Segment) (key : String × Int) : Bool :=
  segment.spans.any fun span => Parent.listed span.parents key

end TraceAgent.Segment

namespace TraceAgent.Native

open Segment Propagation

def Context.lists (context : Context) (key : String × Int) : Bool :=
  context.spans.any fun span => Parent.listed span.parents key

def Context.waiting? (context : Context) : Option Pending := context.current.bind (·.pending)

namespace Context

def brought? (context : Context) : Operation → Option Pending
  | .extract carrier => if carrier.isValid then some ⟨.ofCarrier carrier, true⟩ else none
  | .resume snapshot => (snapshot.anchor.filter (·.isValid)).map fun anchor =>
      ⟨.ofAnchor anchor context.service context.instanceName, false⟩
  | _ => none

def hosts (context : Context) (pending : Pending) : Bool :=
  (context.current.bind (·.host? pending)).isSome

def remarked? (context : Context) : Operation → Option Parent
  | .annotate key (.parent parent) =>
      if key.segment = context.past.length ∧ key.index < context.spans.length then some parent
      else none
  | _ => none

def attached? (context : Context) (operation : Operation) : Option Parent :=
  (context.remarked? operation).or
    (((context.brought? operation).filter context.hosts).map (·.parent))

/-- The parent that has to wait from an operation on. -/
def left? (context : Context) (operation : Operation) : Option Pending :=
  (context.brought? operation).filter (!context.hosts ·)

def added? (context : Context) : Operation → Option Role
  | .create role _ _ => if (context.current.bind (·.shared? role)).isSome then none else some role
  | _ => none

/-- A span that may take a parent is created before another parent has to wait. -/
def takes (context : Context) (pending : Pending) : List Step → Bool
  | [] => false
  | step :: rest =>
      (context.added? step.2).any pending.suits ||
        ((context.left? step.2).isNone &&
          (context.perform step.1 step.2).context.takes pending rest)

/-- A parent with this key finds a span at once, or waits and is taken. -/
def carries (context : Context) (key : String × Int) : List Step → Bool
  | [] => false
  | step :: rest =>
      (context.attached? step.2).any (·.key == key) ||
        (context.left? step.2).any (fun pending => pending.parent.key == key &&
          (context.perform step.1 step.2).context.takes pending rest) ||
        (context.perform step.1 step.2).context.carries key rest

/-- No step hands a segment over. -/
def quiet (context : Context) : List Step → Bool
  | [] => true
  | step :: rest =>
      (context.perform step.1 step.2).report.isNone &&
        (context.perform step.1 step.2).context.quiet rest

variable {context : Context} {moment : Moment} {operation : Operation}

theorem any_modify (spans : List Span) (index : Nat) {change : Span → Span}
    {holds : Span → Bool} (more : Bool)
    (changed : ∀ span, holds (change span) = (holds span || more)) :
    (spans.modify index change).any holds =
      (spans.any holds || (decide (index < spans.length) && more)) := by
  induction spans generalizing index with
  | nil => simp
  | cons span rest ih =>
    cases index with
    | zero =>
      rw [List.modify_zero_cons, List.any_cons, List.any_cons, changed]
      cases holds span <;> cases more <;> simp
    | succ index =>
      rw [List.modify_succ_cons, List.any_cons, List.any_cons, ih, Bool.or_assoc]
      simp

theorem waiting?_modifySpan (key : SpanKey) (change : Span → Span) :
    (context.modifySpan key change).waiting? = context.waiting? := by
  unfold waiting?
  rw [current_modifySpan]
  split
  · cases context.current <;> rfl
  · rfl

theorem lists_edit (spanKey : SpanKey) {change : Span → Span}
    (keeps : ∀ span, (change span).parents = span.parents) (key : String × Int) :
    (context.modifySpan spanKey change).lists key = context.lists key := by
  unfold lists
  rw [spans_modifySpan]
  split
  · rw [any_modify _ _ false]
    · simp
    · intro span
      rw [keeps, Bool.or_false]
  · rfl

theorem host?_opened (context : Context) (moment : Moment) (pending : Pending) :
    (context.opened moment).host? pending = context.current.bind (·.host? pending) := by
  unfold opened
  cases context.current <;> rfl

theorem shared?_opened (context : Context) (moment : Moment) (role : Role) :
    (context.opened moment).shared? role = context.current.bind (·.shared? role) := by
  unfold opened
  cases context.current <;> rfl

theorem added?_create (moment : Moment) (role : Role) (name peer : String) :
    context.added? (.create role name peer) =
      if ((context.opened moment).shared? role).isSome then none else some role := by
  rw [shared?_opened]
  rfl

theorem pending_opened (context : Context) (moment : Moment) :
    (context.opened moment).pending = context.waiting? := by
  unfold opened waiting?
  cases context.current <;> rfl

theorem lists_join (pending : Pending) (correlation : Correlation) (extension : Extension)
    (key : String × Int) :
    (context.join moment pending correlation extension).lists key =
      (context.lists key || (context.hosts pending && pending.parent.key == key)) := by
  unfold lists hosts
  rw [← context.host?_opened moment, ← context.spans_opened moment]
  change ((context.opened moment).link moment.now extension pending).spans.any _ = _
  rw [OpenSegment.link_eq]
  cases host : (context.opened moment).host? pending with
  | none => simp
  | some index =>
    obtain ⟨span, top, _⟩ := OpenSegment.host?_eq_some.mp host
    obtain ⟨rest, _, lookup⟩ := OpenSegment.top?_eq_some.mp top
    obtain ⟨bound, _⟩ := List.getElem?_eq_some_iff.mp lookup
    change ((context.opened moment).spans.modify index _).any _ = _
    rw [any_modify _ _ (pending.parent.key == key)]
    · rw [decide_eq_true bound, Option.isSome_some]
    · intro span
      rw [Span.continueFrom_parents, Parent.listed_addTo]

theorem waiting?_join (pending : Pending) (correlation : Correlation) (extension : Extension) :
    (context.join moment pending correlation extension).waiting? =
      if context.hosts pending then context.waiting? else some pending := by
  unfold hosts
  rw [← context.host?_opened moment, ← context.pending_opened moment]
  change ((context.opened moment).link moment.now extension pending).pending = _
  rw [OpenSegment.link_eq]
  cases (context.opened moment).host? pending <;> rfl

theorem lists_newSpan {opened : OpenSegment} {now : Int} {extension : Extension} {role : Role}
    {name peer : String} (key : String × Int) :
    Parent.listed (opened.newSpan now extension role name peer).parents key =
      opened.pending.any fun pending => pending.suits role && pending.parent.key == key := by
  unfold OpenSegment.newSpan OpenSegment.taken?
  cases opened.pending with
  | none => rfl
  | some pending =>
    by_cases suits : pending.suits role
    · simp only [Option.filter_some, suits, if_true, Span.continueFrom_parents,
        Parent.listed_addTo, Option.any_some, Bool.true_and]
      rfl
    · simp [Option.filter, suits, Parent.listed]

theorem lists_createSpan (role : Role) (name peer : String) (key : String × Int) :
    (context.createSpan moment role name peer).1.lists key =
      (context.lists key || (context.added? (.create role name peer)).any fun role =>
        context.waiting?.any fun pending => pending.suits role && pending.parent.key == key) := by
  unfold lists
  rw [added?_create moment]
  cases shares : (context.opened moment).shared? role with
  | some index =>
    -- Entering a span again leaves its parents alone, and no parent is taken.
    rw [createSpan_of_shared name peer shares, ← context.spans_opened moment]
    change ((context.opened moment).spans.modify index _).any _ = _
    rw [any_modify _ _ false]
    · simp
    · intro span
      split <;> simp [Span.reenterAs, Span.reenter]
  | none =>
    rw [createSpan_of_not_shared name peer shares, ← context.spans_opened moment,
      ← context.pending_opened moment]
    -- A span more, which lists the waiting parent if it may take it.
    change ((context.opened moment).spans ++ [_]).any _ = _
    rw [List.any_append, List.any_cons, List.any_nil, Bool.or_false, lists_newSpan]
    simp

theorem waiting?_createSpan (role : Role) (name peer : String) :
    (context.createSpan moment role name peer).1.waiting? =
      context.waiting?.filter fun pending =>
        !(context.added? (.create role name peer)).any pending.suits := by
  rw [added?_create moment, ← context.pending_opened moment]
  cases shares : (context.opened moment).shared? role with
  | some index =>
    rw [createSpan_of_shared name peer shares]
    change (context.opened moment).pending = _
    cases (context.opened moment).pending <;> rfl
  | none =>
    rw [createSpan_of_not_shared name peer shares]
    -- The parent that the new span takes does not wait any longer.
    change (if ((context.opened moment).taken? role).isSome then none
      else (context.opened moment).pending) = _
    unfold OpenSegment.taken?
    cases (context.opened moment).pending with
    | none => rfl
    | some pending => by_cases suits : pending.suits role <;> simp [Option.filter, suits]

theorem lists_leave {opened : OpenSegment} {index : Nat}
    (current : context.current = some opened) (key : String × Int) :
    { context with current := some (opened.leave moment.now index) }.lists key =
      context.lists key := by
  unfold lists
  rw [spans_of_current current]
  change (opened.leave moment.now index).spans.any _ = _
  rw [OpenSegment.spans_leave, any_modify _ _ false]
  · simp
  · intro span
    rw [Span.leave_parents, Bool.or_false]

theorem waiting?_leave {opened : OpenSegment} {index : Nat}
    (current : context.current = some opened) :
    { context with current := some (opened.leave moment.now index) }.waiting? =
      context.waiting? := by
  unfold waiting?
  rw [current]
  change (opened.leave moment.now index).pending = opened.pending
  unfold OpenSegment.leave
  dsimp only
  split
  · split <;> rfl
  · rfl

/-- What a quiet step adds to the parents that the open segment lists, and which parent waits
after it. -/
structure Handled (context : Context) (operation : Operation) (after : Context) : Prop where
  lists : ∀ key, after.lists key =
    (context.lists key || (context.attached? operation).any (·.key == key) ||
      (context.added? operation).any fun role => context.waiting?.any fun pending =>
        pending.suits role && pending.parent.key == key)
  waiting : after.waiting? = (context.left? operation).or
    (context.waiting?.filter fun pending => !(context.added? operation).any pending.suits)

/-- A step that brings no parent, adds no span and keeps the parents of all spans. -/
theorem Handled.frame {after : Context} (brought : context.brought? operation = none)
    (remarked : context.remarked? operation = none) (added : context.added? operation = none)
    (lists : ∀ key, after.lists key = context.lists key)
    (waiting : after.waiting? = context.waiting?) : Handled context operation after where
  lists := fun key => by simp [attached?, remarked, brought, added, lists]
  waiting := by
    unfold left?
    rw [brought, added, waiting]
    cases context.waiting? <;> rfl

theorem Handled.join {after : Context} {pending : Pending} {correlation : Correlation}
    {extension : Extension} (brought : context.brought? operation = some pending)
    (remarked : context.remarked? operation = none) (added : context.added? operation = none)
    (joined : after = context.join moment pending correlation extension) :
    Handled context operation after where
  lists := fun key => by
    rw [joined, lists_join]
    cases hosted : context.hosts pending <;>
      simp [attached?, remarked, brought, added, Option.filter, hosted]
  waiting := by
    rw [joined, waiting?_join]
    unfold left?
    rw [brought, added]
    cases hosted : context.hosts pending with
    | true => cases context.waiting? <;> simp [Option.filter, hosted]
    | false => simp [Option.filter, hosted]

theorem Handled.edit (spanKey : SpanKey) {change : Span → Span}
    (keeps : ∀ span, (change span).parents = span.parents)
    (brought : context.brought? operation = none)
    (remarked : context.remarked? operation = none) (added : context.added? operation = none) :
    Handled context operation (context.modifySpan spanKey change) :=
  .frame brought remarked added (lists_edit spanKey keeps) (waiting?_modifySpan spanKey change)

/-- A remark adds its parent if its span is in the open segment. -/
theorem Handled.remark (spanKey : SpanKey) (parent : Parent) :
    Handled context (.annotate spanKey (.parent parent))
      (context.modifySpan spanKey (·.addParent parent)) where
  lists := fun key => by
    unfold Context.lists
    rw [spans_modifySpan]
    by_cases here : spanKey.segment = context.past.length
    · rw [if_pos here, any_modify _ _ (parent.key == key)]
      · by_cases bound : spanKey.index < context.spans.length <;>
          simp [attached?, remarked?, brought?, added?, here, bound]
      · exact fun span => Parent.listed_addTo span.parents parent key
    · simp [attached?, remarked?, brought?, added?, here]
  waiting := by
    rw [waiting?_modifySpan]
    unfold left? brought? added?
    cases context.waiting? <;> rfl

theorem handled (quiet : (context.perform moment operation).report = none) :
    Handled context operation (context.perform moment operation).context := by
  cases operation with
  | create role name peer =>
    change Handled context _ (context.createSpan moment role name peer).1
    -- Creating a span is the only operation that may use up the waiting parent.
    constructor
    · intro key
      simpa [attached?, remarked?, brought?] using lists_createSpan role name peer key
    · simpa [left?, brought?] using waiting?_createSpan role name peer
  | stop span =>
    cases stopped : context.stopSpan moment.now span with
    | error =>
      simp only [perform, stopped]
      exact .frame rfl rfl rfl (fun _ => rfl) rfl
    | ok after =>
      obtain ⟨opened, index, rest, current, active, _, rfl⟩ := stopSpan_eq_ok.mp stopped
      simp only [perform, stopped] at quiet ⊢
      -- The step is quiet, so the segment stays open after the span was left.
      have settled := settle_of_quiet quiet
      change Handled context _ (settle { context with current := some _ }).1
      rw [settled]
      exact .frame rfl rfl rfl (lists_leave current) (waiting?_leave current)
  | extract carrier =>
    by_cases valid : carrier.isValid
    · exact .join (if_pos valid) rfl rfl (if_pos valid)
    · have same : context.extract moment carrier = context := if_neg valid
      refine .frame (if_neg valid) rfl rfl (fun key => ?_) ?_
      · exact congrArg (lists · key) same
      · exact congrArg waiting? same
  | resume snapshot =>
    change Handled context _ (context.resume moment snapshot)
    unfold resume
    cases anchored : snapshot.anchor with
    | none => exact .frame (by simp [brought?, anchored]) rfl rfl (fun _ => rfl) rfl
    | some anchor =>
      dsimp only
      split
      next valid => exact .join (by simp [brought?, anchored, Option.filter, valid]) rfl rfl rfl
      next invalid =>
        exact .frame (by simp [brought?, anchored, Option.filter, invalid]) rfl rfl (fun _ => rfl) rfl
  | prepare key =>
    cases prepared : context.prepareAsync key with
    | error =>
      simp only [perform, attempt, prepared, Except.map]
      exact .frame rfl rfl rfl (fun _ => rfl) rfl
    | ok after =>
      obtain ⟨_, rfl⟩ := prepareAsync_eq_ok.mp prepared
      simp only [perform, attempt, prepared, Except.map]
      exact .frame rfl rfl rfl (lists_edit key fun _ => rfl) (waiting?_modifySpan key _)
  | finish key =>
    cases finished : context.finishAsync moment.now key with
    | error =>
      simp only [perform, attempt, finished]
      exact .frame rfl rfl rfl (fun _ => rfl) rfl
    | ok after =>
      obtain ⟨_, rfl⟩ := finishAsync_eq_ok.mp finished
      simp only [perform, attempt, finished] at quiet ⊢
      have settled := settle_of_quiet quiet
      unfold complete
      rw [settled]
      exact .frame rfl rfl rfl (lists_edit key fun _ => rfl) (waiting?_modifySpan key _)
  | annotate key remark =>
    change Handled context _ (context.modifySpan key (·.annotate moment.now remark))
    cases remark with
    | parent parent => exact .remark key parent
    | _ => exact .edit key (fun _ => rfl) rfl rfl rfl
  | applyFlags key extension =>
    exact .edit key (fun span => span.applyFlags_parents extension moment.now) rfl rfl rfl
  | asyncStop span =>
    cases span with
    | foreign => exact .frame rfl rfl rfl (fun _ => rfl) rfl
    | _ =>
      simp only [perform, attempt, asyncStop] at quiet ⊢
      have settled := settle_of_quiet quiet
      unfold complete
      rw [settled]
      exact .frame rfl rfl rfl (fun _ => rfl) rfl
  | _ => exact .frame rfl rfl rfl (fun _ => rfl) rfl

/-- A parent that has to wait is not attached, and no span is created with it. -/
theorem alone_of_left {pending : Pending} (left : context.left? operation = some pending) :
    context.attached? operation = none ∧ context.added? operation = none := by
  obtain ⟨brought, homeless⟩ := Option.filter_eq_some_iff.mp left
  have unhosted : (context.brought? operation).filter context.hosts = none := by
    rw [brought]
    exact Option.filter_eq_none_iff.mpr fun other same => by
      rw [← Option.some.inj same]
      simpa using homeless
  unfold attached?
  rw [unhosted]
  cases operation with
  | extract carrier => exact ⟨rfl, rfl⟩
  | resume snapshot => exact ⟨rfl, rfl⟩
  | _ => cases brought

/-- The segment lists a parent with this key already, or will list the one that waits, or one
that the steps carry to a span. -/
def expects (context : Context) (key : String × Int) (steps : List Step) : Bool :=
  context.lists key ||
    context.waiting?.any (fun pending => pending.parent.key == key && context.takes pending steps) ||
    context.carries key steps

theorem expects_nil (key : String × Int) : context.expects key [] = context.lists key := by
  unfold expects
  cases context.waiting? <;> simp [takes, carries]

theorem takes_cons (pending : Pending) (step : Step) (rest : List Step) :
    context.takes pending (step :: rest) =
      ((context.added? step.2).any pending.suits ||
        ((context.left? step.2).isNone &&
          (context.perform step.1 step.2).context.takes pending rest)) := rfl

theorem carries_cons (key : String × Int) (step : Step) (rest : List Step) :
    context.carries key (step :: rest) =
      ((context.attached? step.2).any (·.key == key) ||
        (context.left? step.2).any (fun pending => pending.parent.key == key &&
          (context.perform step.1 step.2).context.takes pending rest) ||
        (context.perform step.1 step.2).context.carries key rest) := rfl

theorem expects_cons {step : Step} {rest : List Step} (key : String × Int)
    (quiet : (context.perform step.1 step.2).report = none) :
    (context.perform step.1 step.2).context.expects key rest =
      context.expects key (step :: rest) := by
  have handled := handled quiet
  unfold expects
  rw [handled.lists, handled.waiting, carries_cons]
  cases left : context.left? step.2 with
  | some pending =>
    -- the parent that has to wait takes the place of any other
    obtain ⟨attached, added⟩ := alone_of_left left
    cases waiting : context.waiting? <;>
      simp [attached, added, takes_cons, left, Bool.or_assoc]
  | none =>
    cases waiting : context.waiting? with
    | none => simp [Bool.or_assoc]
    | some pending =>
      cases added : context.added? step.2 with
      | none => simp [takes_cons, added, left, Bool.or_assoc, Bool.or_left_comm]
      | some role =>
        -- Either the new span takes the waiting parent, or both go on as they were.
        cases suits : pending.suits role <;>
          simp [takes_cons, added, left, suits, Option.filter, Bool.or_assoc, Bool.or_left_comm]

theorem expects_run {steps : List Step} (key : String × Int) (quiet : context.quiet steps) :
    (context.run steps).lists key = context.expects key steps := by
  induction steps generalizing context with
  | nil => exact (expects_nil key).symm
  | cons step rest ih =>
    have quiets := Bool.and_eq_true_iff.mp quiet
    rw [run_cons, ih quiets.2, expects_cons key (Option.isNone_iff_eq_none.mp quiets.1)]

/-- A segment that is handed over lists what its spans listed. -/
theorem lists_close {opened : OpenSegment} (sound : opened.Sound) (idle : opened.active = [])
    (key : String × Int) :
    opened.close.lists key = opened.spans.any fun span => Parent.listed span.parents key := by
  unfold Segment.lists
  rw [Bool.eq_iff_iff, List.any_eq_true, List.any_eq_true]
  constructor
  · rintro ⟨record, member, listed⟩
    obtain ⟨index, _, found⟩ := List.mem_filterMap.mp member
    obtain ⟨span, lookup, rfl⟩ := Option.map_eq_some_iff.mp found
    exact ⟨span, List.mem_of_getElem? lookup, listed⟩
  · rintro ⟨span, member, listed⟩
    obtain ⟨index, lookup⟩ := List.mem_iff_getElem?.mp member
    exact ⟨_, sound.mem_close idle lookup, listed⟩

theorem lists_settle (context : Context) {report : Segment}
    (shape : ∀ opened, context.current = some opened → opened.Sound)
    (handed : context.settle.2 = some report) (key : String × Int) :
    report.lists key = context.lists key := by
  obtain ⟨opened, current, done, rfl, _⟩ := settle_eq_some handed
  unfold lists
  rw [spans_of_current current]
  exact lists_close (shape opened current) (by rw [← active_of_current current]; exact done.1) key

theorem lists_complete (shape : ∀ opened, context.current = some opened → opened.Sound)
    {report : Segment} (handed : context.complete.2 = some report) (key : String × Int) :
    report.lists key = context.lists key :=
  lists_settle { context with outstanding := context.outstanding - 1 } shape handed key

/-- The step that hands a segment over adds no parent to it. -/
theorem lists_reported (sound : context.Sound) {report : Segment}
    (handed : (context.perform moment operation).report = some report) (key : String × Int) :
    report.lists key = context.lists key := by
  have change := context.perform_change moment operation
  rw [handed] at change
  generalize (context.perform moment operation).context = after at change
  generalize found : some report = handed at change
  generalize operation.countsThroughSpans = paired at change
  -- Only leaving a span and counting a completion can hand a segment over.
  cases change with
  | @leave _ opened index rest current active =>
    have left : ∀ other, some (opened.leave moment.now index) = some other → other.Sound := by
      rintro _ ⟨⟩
      exact (sound.opened opened current).leave active
    rw [lists_settle _ left found.symm, lists_leave current]
  | finish spanKey awaited =>
    have marked : (context.modifySpan spanKey (·.completedAt moment.now)).Sound :=
      sound.modifySpan spanKey fun _ positive => positive
    rw [lists_complete marked.opened found.symm]
    refine lists_edit spanKey ?_ key
    exact fun _ => rfl
  | complete => exact lists_complete sound.opened found.symm key
  | _ => cases found

/-- A context between two segments, or with a segment in which nothing happened yet. -/
structure Blank (context : Context) : Prop where
  spans : context.spans = []
  waiting : context.waiting? = none

theorem Blank.begin (config : AgentConfig) (moment : Moment) :
    (Context.begin config moment).Blank := ⟨rfl, rfl⟩

/-- A reported segment lists a parent exactly if the steps since the segment was blank carried
the parent to a span: an active span continued it at once, a remark added it, or a span that may
take it was created before another parent had to wait. -/
theorem lists_eq_carries (reachable : context.Reachable) (blank : context.Blank)
    (steps : List Step) (quiet : context.quiet steps) (last : Step) {report : Segment}
    (handed : ((context.run steps).perform last.1 last.2).report = some report)
    (key : String × Int) : report.lists key = context.carries key steps := by
  have none : context.lists key = false := by
    unfold lists
    rw [blank.spans]
    rfl
  rw [lists_reported (reachable.run steps).sound handed, expects_run key quiet]
  unfold expects
  rw [none, blank.waiting]
  rfl

def caller (traceId segmentId : String) : Carrier where
  origin :=
    { traceId, segmentId, spanId := 1, service := "caller", instanceName := "instance",
      endpoint := "/call", address := "127.0.0.1:80" }

def twoCalls : List Step :=
  let moment : Moment := ⟨1, "unused", "unused"⟩
  [.extract (caller "trace-a" "segment-a"), .extract (caller "trace-b" "segment-b"),
    .create .entry "/work" ""].map (moment, ·)

def callee : Context := .begin { instanceName := "instance" } ⟨0, "segment", "trace"⟩

def lastStop : Step := (⟨2, "unused", "unused"⟩, .stop (.own ⟨0, 0⟩))

/-- The first of two parents that have to wait is lost, also on a segment whose entry span is
created later. -/
theorem first_waiting_parent_lost :
    (caller "trace-a" "segment-a").isValid ∧
      ∃ report, ((callee.run twoCalls).perform lastStop.1 lastStop.2).report = some report ∧
        report.spans.map (·.role) = [.entry] ∧
        report.parents.map Parent.key = [("segment-a", 1), ("segment-b", 1)] ∧
        report.lists ("segment-a", 1) = false :=
  ⟨by decide, _, rfl, by decide, by decide, by decide⟩

theorem callee_reachable : callee.Reachable := ⟨_, _, [], rfl⟩

theorem twoCalls_lists_second :
    ∃ report, ((callee.run twoCalls).perform lastStop.1 lastStop.2).report = some report ∧
      report.lists ("segment-b", 1) = true :=
  ⟨_, rfl, (lists_eq_carries callee_reachable (.begin _ _) twoCalls (by decide) lastStop rfl
    ("segment-b", 1)).trans (by decide)⟩

end Context

end TraceAgent.Native
