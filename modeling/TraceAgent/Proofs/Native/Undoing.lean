import TraceAgent.Proofs.Native.Fresh
import TraceAgent.Proofs.Native.References

/-! What is left of an exit span that is stopped as soon as it was entered.

While another span is active, such an exit span is finished or left once more,
and nothing that the context shows changes: a parent that still waits then waits
for an entry span, so the exit span did not take it. In a context without an
active span the exit span takes whatever waits, and the segment ends with it.
-/

set_option autoImplicit false

namespace TraceAgent.Native

open Segment Propagation

theorem Span.leave_reenter {span : Span} (entered : 0 < span.depth) (now : Int) :
    span.reenter.leave now = span := by
  have deeper : 1 < span.reenter.depth := Nat.succ_lt_succ entered
  unfold leave
  rw [if_pos deeper]
  rfl

namespace OpenSegment

variable {opened : OpenSegment} {now later : Int} {extension : Extension} {name peer : String}

theorem enter_top? (opened : OpenSegment) (now : Int) (extension : Extension) (role : Role)
    (name peer : String) :
    ∃ span, (opened.enter now extension role name peer).1.top? =
        some ((opened.enter now extension role name peer).2, span) ∧ span.role = role := by
  unfold enter
  cases shares : opened.shared? role with
  | none =>
    exact ⟨_, top?_eq_some.mpr ⟨opened.active, rfl, List.getElem?_concat_length⟩, newSpan_role⟩
  | some index =>
    obtain ⟨span, top, same, _⟩ := shared?_eq_some.mp shares
    obtain ⟨rest, active, lookup⟩ := top?_eq_some.mp top
    refine ⟨if role = .entry then span.reenterAs name else span.reenter,
      top?_eq_some.mpr ⟨rest, active, ?_⟩, ?_⟩
    · dsimp only
      unfold reenter
      rw [spans_modifySpan, List.getElem?_modify_eq, lookup]
      rfl
    · split <;> exact same

/-- A state of a segment after which at most some spans have ended. -/
structure Retains (before after : OpenSegment) : Prop where
  segment : after.segment = before.segment
  active : after.active = before.active
  pending : after.pending = before.pending
  spans : before.spans <+: after.spans

namespace Retains

variable {after : OpenSegment}

theorem lookup (retains : opened.Retains after) {index : Nat}
    (bound : index < opened.spans.length) : after.spans[index]? = opened.spans[index]? := by
  obtain ⟨rest, spans⟩ := retains.spans
  rw [← spans, List.getElem?_append_left bound]

theorem top? (retains : opened.Retains after) (sound : opened.Sound) :
    after.top? = opened.top? := by
  unfold OpenSegment.top?
  rw [retains.active]
  cases active : opened.active with
  | nil => rfl
  | cons index rest =>
    dsimp only
    rw [retains.lookup (sound.active_lt (active ▸ List.mem_cons_self))]

theorem shared? (retains : opened.Retains after) (sound : opened.Sound) (role : Role) :
    after.shared? role = opened.shared? role := by
  unfold OpenSegment.shared?
  rw [retains.top? sound]

end Retains

/-- An exit span that was entered again is as it was before when it is left. -/
theorem Sound.leave_reenter {index : Nat} (sound : opened.Sound)
    (shares : opened.shared? .exit = some index) (name : String) (later : Int) :
    (opened.reenter index .exit name).leave later index = opened := by
  obtain ⟨span, top, _⟩ := shared?_eq_some.mp shares
  obtain ⟨rest, active, lookup⟩ := top?_eq_some.mp top
  obtain ⟨found, here, entered⟩ := sound.entered index (active ▸ List.mem_cons_self)
  cases lookup.symm.trans here
  have stored : (opened.reenter index .exit name).spans[index]? = some span.reenter := by
    unfold OpenSegment.reenter
    rw [spans_modifySpan, List.getElem?_modify_eq, lookup]
    rfl
  have deeper : 1 < span.reenter.depth := Nat.succ_lt_succ entered
  have again : (opened.spans.modify index Span.reenter).modify index (·.leave later) =
      opened.spans := by
    refine List.ext_getElem? fun place => ?_
    rw [List.modify_modify_eq, List.getElem?_modify]
    by_cases same : index = place
    · subst same
      simp [lookup, Span.leave_reenter entered]
    · simp [same]
  have top : (opened.reenter index .exit name).active = index :: rest := active
  rw [leave_eq top stored, if_pos deeper]
  exact congrArg (OpenSegment.mk opened.segment · opened.active opened.finished opened.endpoint
    opened.pending) again

/-- A new span that takes no parent leaves the segment as it was when it is left, but that it
has ended there. -/
theorem retains_push {role : Role} (spared : opened.taken? role = none) (now later : Int)
    (extension : Extension) (name peer : String) :
    Retains opened ((opened.push now extension role name peer).leave later opened.spans.length) := by
  have entered : (opened.push now extension role name peer).active =
      opened.spans.length :: opened.active := rfl
  have stored : (opened.push now extension role name peer).spans[opened.spans.length]? =
      some (opened.newSpan now extension role name peer) := List.getElem?_concat_length
  have pending : (opened.push now extension role name peer).pending = opened.pending := by
    unfold push
    rw [spared]
    rfl
  rw [leave_eq entered stored, newSpan_depth, if_neg (Nat.lt_irrefl 1)]
  refine ⟨rfl, rfl, pending, ?_⟩
  change opened.spans <+: (opened.spans ++ [_]).modify opened.spans.length _
  rw [List.modify_eq_take_drop, List.take_left]
  exact List.prefix_append _ _

/-- An exit span that takes no parent leaves the segment as it was, but for the ended span. -/
theorem Sound.retains_exit (sound : opened.Sound)
    (spared : ∀ pending, opened.pending = some pending → pending.entryOnly) (now later : Int)
    (extension : Extension) (name peer : String) :
    Retains opened ((opened.enter now extension .exit name peer).1.leave later
      (opened.enter now extension .exit name peer).2) := by
  unfold OpenSegment.enter
  cases shares : opened.shared? .exit with
  | some index =>
    dsimp only
    rw [sound.leave_reenter shares]
    exact ⟨rfl, rfl, rfl, List.prefix_refl _⟩
  | none =>
    refine retains_push ?_ now later extension name peer
    refine Option.filter_eq_none_iff.mpr fun pending waits => ?_
    simp [Pending.suits, spared pending waits]

end OpenSegment

namespace Context

variable {context after : Context} {moment : Moment} {operation : Operation}

/-- While a span is active, a parent that waits does so for an entry span. -/
def Attends (context : Context) : Prop :=
  context.active ≠ [] → ∀ pending, context.waiting? = some pending → pending.entryOnly

theorem active_settle_of_idle (idle : context.active = []) : context.settle.1.active = [] := by
  unfold settle
  split
  · exact idle
  · split
    · rfl
    · exact idle

theorem active_of_idle (idle : context.active = []) (moment : Moment)
    (other : ∀ role name peer, operation ≠ .create role name peer) :
    (context.perform moment operation).context.active = [] := by
  cases operation with
  | create role name peer => exact absurd rfl (other role name peer)
  | stop span =>
    obtain ⟨error, refused⟩ := stopSpan_of_idle idle moment.now span
    unfold perform
    dsimp only
    rw [refused]
    exact idle
  | extract carrier =>
    change (context.extract moment carrier).active = []
    unfold extract
    split
    · exact (active_join _ _ _).trans idle
    · exact idle
  | resume snapshot =>
    change (context.resume moment snapshot).active = []
    unfold resume
    split
    · exact idle
    · split
      · exact (active_join _ _ _).trans idle
      · exact idle
  | prepare key =>
    unfold perform attempt
    dsimp only
    cases prepared : context.prepareAsync key with
    | error => exact idle
    | ok after =>
      obtain ⟨_, rfl⟩ := prepareAsync_eq_ok.mp prepared
      exact (active_modifySpan _).trans idle
  | finish key =>
    unfold perform attempt
    dsimp only
    cases finished : context.finishAsync moment.now key with
    | error => exact idle
    | ok after =>
      obtain ⟨_, rfl⟩ := finishAsync_eq_ok.mp finished
      exact active_settle_of_idle ((active_modifySpan _).trans idle)
  | annotate key remark => exact (active_modifySpan _).trans idle
  | applyFlags key extension => exact (active_modifySpan _).trans idle
  | asyncStop span =>
    cases span with
    | foreign => exact idle
    | _ => exact active_settle_of_idle idle
  | _ => exact idle

theorem added?_of_idle (idle : context.active = []) (role : Role) (name peer : String) :
    context.added? (.create role name peer) = some role := by
  have alone : context.current.bind (·.shared? role) = none := by
    cases current : context.current with
    | none => rfl
    | some opened =>
      rw [active_of_current current] at idle
      change opened.shared? role = none
      unfold OpenSegment.shared? OpenSegment.top?
      rw [idle]
  change (if (context.current.bind (·.shared? role)).isSome then none else some role) = some role
  rw [alone]
  rfl

theorem Sound.hosts_of_active {pending : Pending} (sound : context.Sound)
    (busy : context.active ≠ []) (any : ¬ pending.entryOnly) : context.hosts pending := by
  obtain ⟨index, rest, active⟩ := List.exists_cons_of_ne_nil busy
  cases current : context.current with
  | none =>
    unfold Context.active at active
    rw [current] at active
    cases active
  | some opened =>
    obtain ⟨span, top, _⟩ := (sound.opened opened current).top?
      ((active_of_current current).symm.trans active)
    have suits : pending.suits span.role := by simp [Pending.suits, any]
    unfold hosts
    rw [current]
    exact Option.isSome_iff_exists.mpr ⟨index, OpenSegment.host?_eq_some.mpr ⟨span, top, suits⟩⟩

theorem Attends.perform (attends : context.Attends) (sound : context.Sound) (moment : Moment)
    (operation : Operation) : (context.perform moment operation).context.Attends := by
  intro busy pending waits
  cases handed : (context.perform moment operation).report with
  | some report =>
    have change := context.perform_change moment operation
    rw [handed] at change
    unfold waiting? at waits
    rw [change.closes] at waits
    cases waits
  | none =>
    rw [(handled handed).waiting] at waits
    by_contra any
    rcases Option.or_eq_some_iff.mp waits with left | ⟨_, stayed⟩
    · -- What has to wait found no active span, and there is none afterwards either.
      obtain ⟨brought, homeless⟩ := Option.filter_eq_some_iff.mp left
      obtain ⟨correlation, extension, performed, _⟩ := perform_of_brought brought moment
      rw [performed, active_join] at busy
      rw [sound.hosts_of_active busy any] at homeless
      cases homeless
    · obtain ⟨waited, passed⟩ := Option.filter_eq_some_iff.mp stayed
      by_cases idle : context.active = []
      · -- A span was created, and would have taken the parent.
        have creates : ∃ role name peer, operation = .create role name peer := by
          by_contra other
          push Not at other
          exact busy (active_of_idle idle moment other)
        obtain ⟨role, name, peer, rfl⟩ := creates
        rw [added?_of_idle idle] at passed
        simp [Pending.suits, any] at passed
      · exact any (attends idle pending waited)

theorem Reachable.attends (reachable : context.Reachable) : context.Attends := by
  obtain ⟨config, moment, steps, rfl⟩ := reachable
  have begun : (Context.begin config moment).Attends := fun _ _ => (nomatch ·)
  have sound := Sound.begin config moment
  generalize Context.begin config moment = context at begun sound
  induction steps generalizing context with
  | nil => exact begun
  | cons step rest ih =>
    exact ih _ (begun.perform sound step.1 step.2)
      (sound.change (context.perform_change step.1 step.2))

def inherits (context : Context) (role : Role) : List Parent :=
  match context.current.bind (·.shared? role) with
  | some index => context.parentsOf (context.keyOf index)
  | none => ((context.waiting?.filter (·.suits role)).map (·.parent)).toList

theorem inherits_begin (config : AgentConfig) (moment : Moment) (role : Role) :
    (Context.begin config moment).inherits role = [] := rfl

theorem parents_created (context : Context) (moment : Moment) (role : Role) (name peer : String) :
    ((context.createSpan moment role name peer).1.span?
        (context.createSpan moment role name peer).2).map (·.parents) =
      some (context.inherits role) := by
  obtain ⟨span, top, _⟩ := (context.opened moment).enter_top? moment.now context.extension role
    name peer
  obtain ⟨_, _, lookup⟩ := OpenSegment.top?_eq_some.mp top
  have found : (context.createSpan moment role name peer).1.span?
      (context.createSpan moment role name peer).2 = some span :=
    (span?_eq _ _).trans ((if_pos rfl).trans lookup)
  have lists : (context.createSpan moment role name peer).1.parentsOf
      (context.createSpan moment role name peer).2 = context.inherits role := by
    rw [parentsOf_create]
    unfold inherits delivered?
    rw [added?_create moment, ← shared?_opened context moment]
    cases shares : (context.opened moment).shared? role with
    | some index =>
      rw [createSpan_of_shared name peer shares]
      rfl
    | none =>
      rw [createSpan_of_not_shared name peer shares]
      change (Attachment.on ((context.waiting?.filter (·.suits role)).map _).toList _).foldl _ _ = _
      rw [parentsOf_fresh]
      cases context.waiting?.filter (·.suits role) with
      | none => rfl
      | some pending => exact (Attachment.foldl_on ⟨_, pending.parent, true⟩ _ []).trans (if_pos rfl)
  rw [parentsOf, found] at lists
  rw [found]
  exact congrArg some lists

/-- A later state of a context, after which at most some spans of the open segment have ended. -/
structure Retains (before after : Context) : Prop where
  past : after.past = before.past
  correlation : after.correlation = before.correlation
  current : ∃ opened later, before.current = some opened ∧ after.current = some later ∧
    opened.Retains later

namespace Retains

theorem segment (retains : context.Retains after) :
    after.current.map (·.segment) = context.current.map (·.segment) := by
  obtain ⟨opened, later, before, now, kept⟩ := retains.current
  rw [before, now]
  exact congrArg some kept.segment

theorem keyOf (retains : context.Retains after) : after.keyOf = context.keyOf := by
  funext index
  unfold Context.keyOf
  rw [retains.past]

theorem waiting? (retains : context.Retains after) : after.waiting? = context.waiting? := by
  obtain ⟨opened, later, before, now, kept⟩ := retains.current
  unfold Context.waiting?
  rw [before, now]
  exact kept.pending

theorem activeSpan (retains : context.Retains after) (sound : context.Sound) :
    after.activeSpan = context.activeSpan := by
  obtain ⟨opened, later, before, now, kept⟩ := retains.current
  unfold Context.activeSpan Context.top?
  rw [retains.keyOf, before, now, Option.bind_some, Option.bind_some,
    kept.top? (sound.opened opened before)]

theorem inherits (retains : context.Retains after) (sound : context.Sound) (role : Role) :
    after.inherits role = context.inherits role := by
  obtain ⟨opened, later, before, now, kept⟩ := retains.current
  have shape := sound.opened opened before
  unfold Context.inherits
  rw [retains.waiting?, before, now, Option.bind_some, Option.bind_some, kept.shared? shape]
  cases shares : opened.shared? role with
  | none => rfl
  | some index =>
    -- The span that is entered again is an active one, which is still the same.
    obtain ⟨span, top, _⟩ := OpenSegment.shared?_eq_some.mp shares
    obtain ⟨rest, active, _⟩ := OpenSegment.top?_eq_some.mp top
    have bound := shape.active_lt (active ▸ List.mem_cons_self)
    dsimp only
    rw [parentsOf_keyOf, parentsOf_keyOf, spans_of_current before, spans_of_current now,
      kept.lookup bound]

end Retains

/-- While another span is active, an exit span that is stopped as soon as it was entered leaves the
context as it was, but for the ended span. -/
theorem Sound.retains_exit (sound : context.Sound) (attends : context.Attends)
    (busy : context.active ≠ []) (moment : Moment) (name peer : String) (later : Int) :
    ∃ stopped, (context.createSpan moment .exit name peer).1.stopSpan later
        (.own (context.createSpan moment .exit name peer).2) = .ok stopped ∧
      stopped.idle = false ∧ stopped.report = none ∧ Retains context stopped.context := by
  obtain ⟨others, entered⟩ := (context.opened moment).enter_active moment.now context.extension
    .exit name peer
  have stays : (((context.opened moment).enter moment.now context.extension .exit name peer).1.leave
      later ((context.opened moment).enter moment.now context.extension .exit name peer).2).active ≠
        [] := by
    rw [(sound.opened_moment moment).active_leave_enter, active_opened]
    exact busy
  refine ⟨_, stopSpan_eq_ok.mpr ⟨_, _, others, rfl, entered, rfl, rfl⟩, ?_⟩
  rw [leaveTop_of_active _ stays]
  refine ⟨rfl, rfl, rfl, rfl, ?_⟩
  cases current : context.current with
  | none =>
    unfold active at busy
    rw [current] at busy
    exact absurd rfl busy
  | some opened =>
    have same : context.opened moment = opened := opened_of_current current
    refine ⟨opened, _, rfl, rfl, ?_⟩
    rw [same]
    refine (sound.opened opened current).retains_exit (fun pending waits => ?_) _ _ _ _ _
    refine attends busy pending ?_
    unfold waiting?
    rw [current]
    exact waits

/-- In a context without an active span the exit span is the last one, and whatever waits ends
with it. -/
theorem Sound.stopSpan_exit_of_idle (sound : context.Sound) (idle : context.active = [])
    (moment : Moment) (name peer : String) (later : Int) :
    ∃ stopped, (context.createSpan moment .exit name peer).1.stopSpan later
        (.own (context.createSpan moment .exit name peer).2) = .ok stopped ∧
      stopped.idle = true := by
  obtain ⟨others, entered⟩ := (context.opened moment).enter_active moment.now context.extension
    .exit name peer
  refine ⟨_, stopSpan_eq_ok.mpr ⟨_, _, others, rfl, entered, rfl, rfl⟩, List.isEmpty_iff.mpr ?_⟩
  exact ((sound.opened_moment moment).active_leave_enter _ _ _ _ _ _).trans
    ((context.active_opened moment).trans idle)

theorem inject_createSpan_eq_error {moment : Moment} {name peer : String} {now : Int}
    {carrier : Carrier} {error : TraceError}
    (refused : (context.createSpan moment .exit name peer).1.inject now carrier = .error error) :
    error = .missingPeer := by
  obtain ⟨span, top, role⟩ := (context.opened moment).enter_top? moment.now context.extension .exit
    name peer
  have current : (context.createSpan moment .exit name peer).1.current =
      some ((context.opened moment).enter moment.now context.extension .exit name peer).1 := rfl
  unfold inject at refused
  rw [current] at refused
  dsimp only at refused
  rw [top] at refused
  dsimp only at refused
  rw [if_neg (not_not.mpr role)] at refused
  split at refused
  · cases refused
    rfl
  · cases refused

end Context

end TraceAgent.Native
