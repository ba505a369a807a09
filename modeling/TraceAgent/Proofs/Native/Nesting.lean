import TraceAgent.Proofs.Native.Run

/-! How the entrances of a context nest.

A span that is shared is entered more than once, so the stack of active spans
does not show how often a context was entered. The entrances that are not left
yet do: entering a span puts one on top, stopping the active span takes the top
one away, and nothing else changes them.
-/

set_option autoImplicit false

namespace TraceAgent.Native

open Segment Propagation

namespace OpenSegment

variable {opened other : OpenSegment} {now : Int} {extension : Extension} {role : Role}
  {name peer : String} {index : Nat} {change : Span → Span} {rest stack : List Nat}

def depthOf (opened : OpenSegment) (index : Nat) : Nat :=
  ((opened.spans[index]?).map Span.depth).getD 0

def entrances (opened : OpenSegment) (stack : List Nat) : List Nat :=
  stack.flatMap fun index => List.replicate (opened.depthOf index) index

def layers (opened : OpenSegment) : List Nat := opened.entrances opened.active

theorem entrances_cons :
    opened.entrances (index :: rest) =
      List.replicate (opened.depthOf index) index ++ opened.entrances rest := List.flatMap_cons

theorem entrances_congr (depth : ∀ index ∈ stack, other.depthOf index = opened.depthOf index) :
    other.entrances stack = opened.entrances stack := by
  unfold entrances
  rw [List.flatMap_def, List.flatMap_def]
  refine congrArg List.flatten (List.map_congr_left fun index member => ?_)
  rw [depth index member]

theorem depthOf_of_lookup {span : Span} (lookup : opened.spans[index]? = some span) :
    opened.depthOf index = span.depth := by
  unfold depthOf
  rw [lookup]
  rfl

theorem depthOf_modify (index : Nat) (change : Span → Span) (place : Nat) :
    (opened.modifySpan index change).depthOf place =
      if index = place then ((opened.spans[place]?).map fun span => (change span).depth).getD 0
      else opened.depthOf place := by
  unfold depthOf
  rw [spans_modifySpan, List.getElem?_modify]
  split
  · rw [Option.map_eq_map, Option.map_map]
    rfl
  · rw [Option.map_eq_map, Option.map_id_fun']
    rfl

theorem depthOf_keep (keeps : ∀ span, (change span).depth = span.depth) (place : Nat) :
    (opened.modifySpan index change).depthOf place = opened.depthOf place := by
  rw [depthOf_modify]
  split
  · simp only [keeps]
    rfl
  · rfl

theorem layers_keep (keeps : ∀ span, (change span).depth = span.depth) :
    (opened.modifySpan index change).layers = opened.layers :=
  entrances_congr fun place _ => depthOf_keep keeps place

theorem layers_link (now : Int) (extension : Extension) (pending : Pending) :
    (opened.link now extension pending).layers = opened.layers := by
  have keeps (span : Span) :
      (span.continueFrom pending.parent extension now).depth = span.depth :=
    span.continueFrom_depth pending.parent extension now
  rw [link_eq]
  split
  · exact layers_keep keeps
  · rfl

theorem Sound.below (sound : opened.Sound) (active : opened.active = index :: rest) :
    ∀ place ∈ rest, index ≠ place := by
  intro place member same
  have nodup := sound.nodup
  rw [active, List.cons_append] at nodup
  exact (List.nodup_cons.mp nodup).1 (List.mem_append_left _ (same ▸ member))

/-- The innermost entrance is one of the innermost active span. -/
theorem Sound.layers_eq (sound : opened.Sound) (active : opened.active = index :: rest) :
    ∃ span, opened.spans[index]? = some span ∧ 0 < span.depth ∧
      opened.layers = index :: (List.replicate (span.depth - 1) index ++ opened.entrances rest) := by
  obtain ⟨span, lookup, positive⟩ := sound.entered index (active ▸ List.mem_cons_self)
  refine ⟨span, lookup, positive, ?_⟩
  unfold layers
  rw [active, entrances_cons, depthOf_of_lookup lookup]
  cases depth : span.depth with
  | zero => omega
  | succ outer => rfl

/-- Entering a span puts one entrance on top. -/
theorem Sound.layers_enter (sound : opened.Sound) (now : Int) (extension : Extension) (role : Role)
    (name peer : String) :
    (opened.enter now extension role name peer).1.layers =
      (opened.enter now extension role name peer).2 :: opened.layers := by
  unfold OpenSegment.enter
  cases shares : opened.shared? role with
  | some index =>
    dsimp only
    obtain ⟨span, top, _⟩ := shared?_eq_some.mp shares
    obtain ⟨rest, active, lookup⟩ := top?_eq_some.mp top
    have deeper : (opened.reenter index role name).depthOf index = span.depth + 1 := by
      unfold OpenSegment.reenter
      rw [depthOf_modify, if_pos rfl, lookup]
      dsimp only [Option.map_some, Option.getD_some]
      split <;> rfl
    have others : (opened.reenter index role name).entrances rest = opened.entrances rest :=
      entrances_congr fun place member =>
        (depthOf_modify _ _ place).trans (if_neg (sound.below active place member))
    have kept : (opened.reenter index role name).active = index :: rest := active
    unfold layers
    rw [kept, active, entrances_cons, entrances_cons, deeper, others, depthOf_of_lookup lookup]
    rfl
  | none =>
    dsimp only
    have top : (opened.push now extension role name peer).depthOf opened.spans.length = 1 :=
      (depthOf_of_lookup List.getElem?_concat_length).trans newSpan_depth
    have others : (opened.push now extension role name peer).entrances opened.active =
        opened.entrances opened.active := by
      refine entrances_congr fun place member => ?_
      unfold depthOf
      exact congrArg (fun found => (Option.map Span.depth found).getD 0)
        (List.getElem?_append_left (sound.active_lt member))
    change (opened.push now extension role name peer).entrances (_ :: opened.active) = _
    rw [entrances_cons, top, others]
    rfl

/-- Stopping the innermost span takes the top entrance away. -/
theorem Sound.layers_leave (sound : opened.Sound) (active : opened.active = index :: rest)
    (now : Int) : opened.layers = index :: (opened.leave now index).layers := by
  obtain ⟨span, lookup, positive, layers⟩ := sound.layers_eq active
  have others : (opened.modifySpan index (·.leave now)).entrances rest = opened.entrances rest :=
    entrances_congr fun place member =>
      (depthOf_modify _ _ place).trans (if_neg (sound.below active place member))
  rw [layers, leave_eq active lookup]
  split
  next deeper =>
    have left : (opened.modifySpan index (·.leave now)).depthOf index = span.depth - 1 := by
      rw [depthOf_modify, if_pos rfl, lookup]
      simp only [Option.map_some, Option.getD_some, Span.leave, if_pos deeper]
    change _ = index :: (opened.modifySpan index (·.leave now)).entrances opened.active
    rw [active, entrances_cons, left, others]
  next last =>
    have once : span.depth - 1 = 0 := by omega
    change _ = index :: (opened.modifySpan index (·.leave now)).entrances rest
    rw [others, once]
    rfl

theorem Sound.layers_eq_nil (sound : opened.Sound) : opened.layers = [] ↔ opened.active = [] := by
  constructor
  · intro none
    cases active : opened.active with
    | nil => rfl
    | cons index rest =>
      obtain ⟨_, _, _, layers⟩ := sound.layers_eq active
      rw [layers] at none
      cases none
  · intro idle
    unfold layers
    rw [idle]
    rfl

end OpenSegment

namespace Context

variable {context : Context} {moment : Moment} {key : SpanKey}

/-- The entrances that are not left yet, innermost first, each by its span. -/
def nest (context : Context) : List SpanKey :=
  ((context.current.map (·.layers)).getD []).map context.keyOf

theorem nest_of_current {opened : OpenSegment} (current : context.current = some opened) :
    context.nest = opened.layers.map context.keyOf := by
  unfold nest
  rw [current]
  rfl

theorem nest_of_closed (closed : context.current = none) : context.nest = [] := by
  unfold nest
  rw [closed]
  rfl

theorem nest_opened (context : Context) (moment : Moment) :
    (context.opened moment).layers.map context.keyOf = context.nest := by
  unfold nest opened
  cases context.current <;> rfl

theorem Sound.nest_createSpan (sound : context.Sound) (moment : Moment) (role : Role)
    (name peer : String) :
    (context.createSpan moment role name peer).1.nest =
      (context.createSpan moment role name peer).2 :: context.nest := by
  have entered := (sound.opened_moment moment).layers_enter moment.now context.extension role name
    peer
  rw [← context.nest_opened moment]
  exact (nest_of_current rfl).trans (congrArg (List.map context.keyOf) entered)

theorem nest_join (pending : Pending) (correlation : Correlation) (extension : Extension) :
    (context.join moment pending correlation extension).nest = context.nest := by
  rw [← context.nest_opened moment]
  exact (nest_of_current rfl).trans (congrArg (List.map context.keyOf)
    (OpenSegment.layers_link moment.now extension pending))

theorem nest_extract (moment : Moment) (carrier : Carrier) :
    (context.extract moment carrier).nest = context.nest := by
  unfold extract
  split
  · exact nest_join _ _ _
  · rfl

theorem nest_resume (moment : Moment) (snapshot : Snapshot) :
    (context.resume moment snapshot).nest = context.nest := by
  unfold resume
  split
  · rfl
  · split
    · exact nest_join _ _ _
    · rfl

theorem nest_modifySpan (key : SpanKey) {change : Span → Span}
    (keeps : ∀ span, (change span).depth = span.depth) :
    (context.modifySpan key change).nest = context.nest := by
  unfold nest keyOf
  rw [length_past_modifySpan, current_modifySpan]
  split
  · cases context.current with
    | none => rfl
    | some opened => exact congrArg (List.map _) (OpenSegment.layers_keep keeps)
  · rfl

theorem nest_settle (shape : ∀ opened, context.current = some opened → opened.Sound) :
    context.settle.1.nest = context.nest := by
  by_cases done : context.IsDone
  · cases current : context.current with
    | none => rw [settle_of_none current]
    | some opened =>
      have idle : opened.active = [] := by rw [← active_of_current current]; exact done.1
      rw [settle_of_done current done, nest_of_current current,
        (shape opened current).layers_eq_nil.mpr idle]
      rfl
  · rw [settle_of_not_done done]

theorem Sound.nest_complete (sound : context.Sound) :
    context.complete.1.nest = context.nest := nest_settle sound.opened

/-- Leaving the innermost span takes it off the nest, and leaves the context idle with the last
one. -/
theorem Sound.nest_leaveTop (sound : context.Sound) {opened : OpenSegment} {index : Nat}
    {rest : List Nat} (current : context.current = some opened)
    (active : opened.active = index :: rest) (now : Int) :
    context.nest = context.keyOf index :: (context.leaveTop now opened index).context.nest ∧
      (context.leaveTop now opened index).idle =
        (context.leaveTop now opened index).context.nest.isEmpty := by
  have left : (opened.leave now index).Sound := (sound.opened opened current).leave active
  have kept : (context.leaveTop now opened index).context.nest =
      (opened.leave now index).layers.map context.keyOf := by
    refine (nest_settle ?_).trans (nest_of_current rfl)
    rintro _ ⟨⟩
    exact left
  rw [kept, List.isEmpty_map, nest_of_current current,
    (sound.opened opened current).layers_leave active now]
  refine ⟨rfl, ?_⟩
  change (opened.leave now index).active.isEmpty = _
  rw [Bool.eq_iff_iff, List.isEmpty_iff, List.isEmpty_iff, left.layers_eq_nil]

/-- The active span is on top of the nest. -/
theorem Sound.activeSpan_eq (sound : context.Sound) :
    context.activeSpan =
      match context.nest with
      | [] => .error .noActiveSpan
      | key :: _ => .ok key := by
  cases current : context.current with
  | none =>
    rw [nest_of_closed current]
    unfold activeSpan top?
    rw [current]
    rfl
  | some opened =>
    have shape := sound.opened opened current
    rw [nest_of_current current]
    cases active : opened.active with
    | nil =>
      rw [shape.layers_eq_nil.mpr active]
      unfold activeSpan top? OpenSegment.top?
      rw [current, Option.bind_some, active]
      rfl
    | cons index rest =>
      obtain ⟨_, _, _, layers⟩ := shape.layers_eq active
      rw [layers]
      exact sound.activeSpan_eq_ok.mpr
        ⟨index, rest, (active_of_current current).trans active, rfl⟩

def InTrace (context : Context) (allowed : String → Prop) : Prop :=
  ∀ opened, context.current = some opened → allowed opened.segment.traceId.id

namespace InTrace

variable {allowed : String → Prop}

theorem mono {wider : String → Prop} (inTrace : context.InTrace allowed)
    (weaker : ∀ id, allowed id → wider id) : context.InTrace wider :=
  fun opened current => weaker _ (inTrace opened current)

theorem begin (config : AgentConfig) (fresh : allowed moment.traceId) :
    (Context.begin config moment).InTrace allowed := by
  rintro _ ⟨⟩
  exact fresh

theorem opened (inTrace : context.InTrace allowed)
    (fresh : context.current = none → allowed moment.traceId) :
    allowed (context.opened moment).segment.traceId.id := by
  unfold Context.opened
  cases current : context.current with
  | none => exact fresh current
  | some opened => exact inTrace opened current

theorem createSpan (inTrace : context.InTrace allowed)
    (fresh : context.current = none → allowed moment.traceId) (role : Role) (name peer : String) :
    (context.createSpan moment role name peer).1.InTrace allowed := by
  rintro _ ⟨⟩
  rw [OpenSegment.segment_enter]
  exact inTrace.opened fresh

theorem join (inTrace : context.InTrace allowed)
    (fresh : context.current = none → allowed moment.traceId) {pending : Pending}
    (brought : allowed pending.parent.traceId) (correlation : Correlation)
    (extension : Extension) :
    (context.join moment pending correlation extension).InTrace allowed := by
  rintro _ ⟨⟩
  rw [OpenSegment.segment_link]
  by_cases joined : (context.opened moment).segment.traceId.isReceived
  · rw [Segment.traceId_link_of_received _ joined]
    exact inTrace.opened fresh
  · rw [Segment.traceId_link _ joined]
    exact brought

theorem extract (inTrace : context.InTrace allowed) {carrier : Carrier}
    (fresh : carrier.isValid → context.current = none → allowed moment.traceId)
    (brought : carrier.isValid → allowed carrier.origin.traceId) :
    (context.extract moment carrier).InTrace allowed := by
  unfold Context.extract
  split
  next valid => exact inTrace.join (fresh valid) (brought valid) _ _
  next => exact inTrace

theorem resume (inTrace : context.InTrace allowed) {snapshot : Snapshot}
    (fresh : snapshot.isValid → context.current = none → allowed moment.traceId)
    (brought : ∀ anchor, snapshot.anchor = some anchor → anchor.isValid →
      allowed anchor.traceId.id) : (context.resume moment snapshot).InTrace allowed := by
  unfold Context.resume
  unfold Snapshot.isValid at fresh
  split
  · exact inTrace
  next anchor anchored =>
    rw [anchored] at fresh
    split
    next valid => exact inTrace.join (fresh valid) (brought anchor anchored valid) _ _
    next => exact inTrace

theorem modifySpan (inTrace : context.InTrace allowed) (key : SpanKey) (change : Span → Span) :
    (context.modifySpan key change).InTrace allowed := by
  intro opened current
  rw [current_modifySpan] at current
  split at current
  · obtain ⟨before, here, rfl⟩ := Option.map_eq_some_iff.mp current
    exact inTrace before here
  · exact inTrace opened current

theorem settle (inTrace : context.InTrace allowed) : context.settle.1.InTrace allowed := by
  by_cases done : context.IsDone
  · cases current : context.current with
    | none =>
      rw [settle_of_none current]
      exact inTrace
    | some opened =>
      rw [settle_of_done current done]
      exact fun _ => (nomatch ·)
  · rw [settle_of_not_done done]
    exact inTrace

theorem complete (inTrace : context.InTrace allowed) : context.complete.1.InTrace allowed :=
  settle inTrace

theorem leaveTop (inTrace : context.InTrace allowed) {opened : OpenSegment}
    (current : context.current = some opened) (now : Int) (index : Nat) :
    (context.leaveTop now opened index).context.InTrace allowed := by
  refine settle ?_
  rintro _ ⟨⟩
  rw [OpenSegment.segment_leave]
  exact inTrace opened current

end InTrace

end Context

end TraceAgent.Native
