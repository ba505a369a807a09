import TraceAgent.Proofs.Native.Baggage
import TraceAgent.Proofs.Native.Nesting
import TraceAgent.Proofs.Native.Resumption

/-! What a captured snapshot says.

A snapshot names the active span with its segment and trace, and the span that
stands for the segment: its first entry span, or its first span as long as there
is no entry span. The ids of a segment come from the generator or along with a
valid parent, so a snapshot is valid wherever the generator leaves no id empty.
-/

set_option autoImplicit false

namespace TraceAgent.Propagation

theorem Origin.traceId_ne_of_isValid {origin : Origin} (valid : origin.isValid) :
    origin.traceId ≠ "" := by
  unfold isValid at valid
  simp only [Bool.and_eq_true, bne_iff_ne] at valid
  exact valid.1.1.1.1.1.1

theorem Anchor.traceId_ne_of_isValid (anchor : Anchor) (valid : anchor.isValid) :
    anchor.traceId.id ≠ "" := by
  unfold isValid at valid
  simp only [Bool.and_eq_true, bne_iff_ne] at valid
  exact valid.2

theorem Snapshot.exists_anchor (snapshot : Snapshot) (valid : snapshot.isValid) :
    ∃ anchor, snapshot.anchor = some anchor := by
  unfold isValid at valid
  split at valid
  next anchor anchored => exact ⟨anchor, anchored⟩
  next => cases valid

end TraceAgent.Propagation

namespace TraceAgent.Native

open Segment Propagation

def Moment.IsNamed (moment : Moment) : Prop := moment.segmentId ≠ "" ∧ moment.traceId ≠ ""

instance (moment : Moment) : Decidable moment.IsNamed := inferInstanceAs (Decidable (_ ∧ _))

def foremost (spans : List Span) : Option Nat :=
  (spans.findIdx? Span.isEntry).or (spans.head?.map fun _ => 0)

theorem foremost_congr {spans other : List Span}
    (same : other.map Span.isEntry = spans.map Span.isEntry) : foremost other = foremost spans := by
  have first : ∀ list : List Span,
      list.findIdx? Span.isEntry = (list.map Span.isEntry).findIdx? fun entry => entry := by
    intro list
    rw [List.findIdx?_map]
    rfl
  have head : ∀ list : List Span,
      (list.head?.map fun _ => 0) = (list.map Span.isEntry).head?.map fun _ => 0 := by
    intro list
    cases list <;> rfl
  unfold foremost
  rw [first, head, same, ← first, ← head]

theorem foremost_modify (spans : List Span) (index : Nat) {change : Span → Span}
    (role : ∀ span, (change span).role = span.role) :
    foremost (spans.modify index change) = foremost spans := by
  refine foremost_congr ?_
  refine List.ext_getElem? fun other => ?_
  rw [List.getElem?_map, List.getElem?_map, List.getElem?_modify]
  cases spans[other]? with
  | none => rfl
  | some span =>
    by_cases here : index = other
    · simp [here, Span.isEntry, role]
    · simp [here]

theorem foremost_lt {spans : List Span} {index : Nat} (first : foremost spans = some index) :
    index < spans.length := by
  unfold foremost at first
  cases entry : spans.findIdx? Span.isEntry with
  | some found =>
    rw [entry] at first
    cases first
    exact (List.findIdx?_eq_some_iff_getElem.mp entry).1
  | none =>
    rw [entry] at first
    cases spans with
    | nil => cases first
    | cons span rest =>
      cases first
      exact Nat.zero_lt_succ _

theorem exists_foremost {spans : List Span} {index : Nat} {span : Span}
    (lookup : spans[index]? = some span) :
    ∃ primary front, foremost spans = some primary ∧ spans[primary]? = some front := by
  cases first : foremost spans with
  | some primary => exact ⟨primary, _, rfl, List.getElem?_eq_getElem (foremost_lt first)⟩
  | none =>
    have empty : spans.head? = none := Option.map_eq_none_iff.mp (Option.or_eq_none_iff.mp first).2
    rw [List.head?_eq_none_iff.mp empty] at lookup
    cases lookup

namespace OpenSegment

variable {opened : OpenSegment}

def IsFronted (opened : OpenSegment) : Prop := opened.endpoint = foremost opened.spans

theorem IsFronted.begin (moment : Moment) : (OpenSegment.begin moment).IsFronted := rfl

theorem IsFronted.modifySpan (fronted : opened.IsFronted) (index : Nat) {change : Span → Span}
    (role : ∀ span, (change span).role = span.role) : (opened.modifySpan index change).IsFronted :=
  fronted.trans (foremost_modify opened.spans index role).symm

theorem IsFronted.push (fronted : opened.IsFronted) (now : Int) (extension : Extension)
    (role : Role) (name peer : String) :
    (opened.push now extension role name peer).IsFronted := by
  have entry : (opened.newSpan now extension role name peer).isEntry = (role == .entry) :=
    congrArg (· == Role.entry) newSpan_role
  unfold IsFronted at fronted ⊢
  change opened.endpointWith role = foremost (opened.spans ++ [_])
  unfold foremost endpointWith isEntryAt at *
  rw [List.findIdx?_append, List.findIdx?_singleton, entry, fronted]
  cases first : opened.spans.findIdx? Span.isEntry with
  | some index =>
    obtain ⟨bound, isEntry, _⟩ := List.findIdx?_eq_some_iff_getElem.mp first
    simp [bound, isEntry]
  | none =>
    cases spans : opened.spans with
    | nil => by_cases same : role = .entry <;> simp [same]
    | cons span rest =>
      have inner : span.isEntry = false :=
        List.findIdx?_eq_none_iff.mp first span (spans ▸ List.mem_cons_self)
      by_cases same : role = .entry <;> simp [inner, same]

theorem IsFronted.enter (fronted : opened.IsFronted) (now : Int) (extension : Extension)
    (role : Role) (name peer : String) :
    (opened.enter now extension role name peer).1.IsFronted := by
  unfold OpenSegment.enter
  split
  · refine fronted.modifySpan _ fun span => ?_
    split <;> rfl
  · exact fronted.push now extension role name peer

theorem IsFronted.link (fronted : opened.IsFronted) (now : Int) (extension : Extension)
    (pending : Pending) : (opened.link now extension pending).IsFronted := by
  rw [link_eq]
  split
  next index _ =>
    exact fronted.modifySpan index fun span =>
      span.continueFrom_role pending.parent extension now
  next => exact fronted

theorem IsFronted.leave (fronted : opened.IsFronted) (now : Int) (index : Nat) :
    (opened.leave now index).IsFronted := by
  have same : (opened.leave now index).endpoint = opened.endpoint := by
    unfold OpenSegment.leave
    dsimp only
    split
    · split <;> rfl
    · rfl
  have role : ∀ span : Span, (span.leave now).role = span.role :=
    fun span => congrArg Descent.role (span.leave_descent now)
  unfold IsFronted
  rw [same, spans_leave, foremost_modify _ _ role]
  exact fronted

end OpenSegment

namespace Context

variable {context after : Context} {moment : Moment}

def IsFronted (context : Context) : Prop :=
  ∀ opened, context.current = some opened → opened.IsFronted

namespace IsFronted

theorem opened (fronted : context.IsFronted) (moment : Moment) :
    (context.opened moment).IsFronted := by
  unfold Context.opened
  cases current : context.current with
  | none => exact .begin moment
  | some opened => exact fronted opened current

theorem modifySpan (fronted : context.IsFronted) (key : SpanKey) {change : Span → Span}
    (role : ∀ span, (change span).role = span.role) :
    (context.modifySpan key change).IsFronted := by
  intro opened current
  rw [current_modifySpan] at current
  split at current
  · obtain ⟨before, here, rfl⟩ := Option.map_eq_some_iff.mp current
    exact (fronted before here).modifySpan key.index role
  · exact fronted opened current

theorem settle (fronted : context.IsFronted) : context.settle.1.IsFronted := by
  by_cases quiet : context.settle.2 = none
  · rwa [settle_of_quiet quiet]
  · obtain ⟨report, handed⟩ := Option.ne_none_iff_exists'.mp quiet
    obtain ⟨opened, _, _, _, settled⟩ := settle_eq_some handed
    rw [settled]
    exact fun _ => (nomatch ·)

theorem change {paired : Bool} {report : Option Segment} (fronted : context.IsFronted)
    (change : Change context moment paired after report) : after.IsFronted := by
  cases change with
  | stay => exact fronted
  | create role name peer =>
    rintro _ ⟨⟩
    exact (fronted.opened moment).enter _ _ role name peer
  | @leave _ opened index rest current active =>
    refine settle ?_
    rintro _ ⟨⟩
    exact (fronted opened current).leave _ index
  | join pending correlation extension =>
    rintro _ ⟨⟩
    exact (fronted.opened moment).link _ extension pending
  | edit key depth completion parents descent =>
    exact fronted.modifySpan key fun span => congrArg Descent.role (descent span)
  | prepare key ready => exact fronted.modifySpan key fun _ => rfl
  | finish key awaited => exact settle (fronted.modifySpan key fun _ => rfl)
  | expect => exact fronted
  | complete => exact settle fronted

theorem run (fronted : context.IsFronted) (steps : List Step) :
    (context.run steps).IsFronted := by
  induction steps generalizing context with
  | nil => exact fronted
  | cons step rest ih => exact ih (fronted.change (perform_change context step.1 step.2))

end IsFronted

def opens (context : Context) (step : Step) : Bool :=
  context.current.isNone && (context.perform step.1 step.2).context.current.isSome

theorem opens_of_isSome {operation : Operation} (closed : context.current = none)
    (isOpen : (context.perform moment operation).context.current.isSome) :
    context.opens (moment, operation) := by
  unfold opens
  rw [closed, isOpen]
  rfl

/-- The moments of a run whose ids went into a segment. -/
def drawn (context : Context) : List Step → List Moment
  | [] => []
  | step :: rest =>
      (if context.opens step then [step.1] else []) ++
        (context.perform step.1 step.2).context.drawn rest

structure IsNamed (context : Context) : Prop where
  segment : context.openId? ≠ some ""
  trace : context.InTrace (· ≠ "")

namespace IsNamed

theorem begin (config : AgentConfig) (named : moment.IsNamed) :
    (Context.begin config moment).IsNamed where
  segment := fun same => named.1 (Option.some.inj same)
  trace := .begin config named.2

/-- The id of a segment comes from the moment at which it is opened. -/
theorem openId?_perform (named : context.IsNamed) (operation : Operation)
    (fresh : context.opens (moment, operation) → moment.IsNamed) :
    (context.perform moment operation).context.openId? ≠ some "" := by
  intro empty
  obtain ⟨opened, current, id⟩ := Option.map_eq_some_iff.mp empty
  have change := perform_change context moment operation
  have quiet : (context.perform moment operation).report = none := by
    cases handed : (context.perform moment operation).report with
    | none => rfl
    | some report =>
      rw [handed] at change
      cases current.symm.trans change.closes
  rcases change.turns with ⟨_, _, closed⟩ | ⟨segment, found, evolves⟩
  · cases current.symm.trans closed
  rw [quiet, current] at found
  cases found
  rw [evolves.follows.id] at id
  unfold Context.opened at id
  cases before : context.current with
  | none =>
    rw [before] at id
    exact (fresh (opens_of_isSome before (by rw [current]; rfl))).1 id
  | some earlier =>
    rw [before] at id
    exact named.segment (by rw [openId?, before]; exact congrArg some id)

theorem inTrace_perform (named : context.IsNamed) (operation : Operation)
    (fresh : context.opens (moment, operation) → moment.IsNamed) :
    (context.perform moment operation).context.InTrace (· ≠ "") := by
  have trace := named.trace
  cases operation with
  | create role name peer =>
    exact trace.createSpan (fun closed => (fresh (opens_of_isSome closed rfl)).2) role name peer
  | stop span =>
    unfold Context.perform
    dsimp only
    cases stopped : context.stopSpan moment.now span with
    | error => exact trace
    | ok after =>
      obtain ⟨opened, index, rest, current, active, _, rfl⟩ := stopSpan_eq_ok.mp stopped
      exact trace.leaveTop current moment.now index
  | extract carrier =>
    refine trace.extract (fun valid closed => (fresh (opens_of_isSome closed ?_)).2)
      Origin.traceId_ne_of_isValid
    change (context.extract moment carrier).current.isSome
    rw [extract_of_valid valid]
    rfl
  | resume snapshot =>
    refine trace.resume (fun valid closed => (fresh (opens_of_isSome closed ?_)).2)
      fun anchor _ => anchor.traceId_ne_of_isValid
    obtain ⟨anchor, anchored⟩ := snapshot.exists_anchor valid
    change (context.resume moment snapshot).current.isSome
    rw [resume_of_valid anchored valid]
    rfl
  | prepare key =>
    unfold Context.perform attempt
    dsimp only
    cases prepared : context.prepareAsync key with
    | error => exact trace
    | ok after =>
      obtain ⟨_, rfl⟩ := prepareAsync_eq_ok.mp prepared
      exact trace.modifySpan key _
  | finish key =>
    unfold Context.perform attempt
    dsimp only
    cases finished : context.finishAsync moment.now key with
    | error => exact trace
    | ok after =>
      obtain ⟨_, rfl⟩ := finishAsync_eq_ok.mp finished
      exact (trace.modifySpan key _).complete
  | annotate key remark => exact trace.modifySpan key _
  | applyFlags key extension => exact trace.modifySpan key _
  | asyncStop span =>
    cases span with
    | foreign => exact trace
    | own key => exact trace.complete
    | other spanId => exact trace.complete
  | _ => exact trace

theorem perform (named : context.IsNamed) (operation : Operation)
    (fresh : context.opens (moment, operation) → moment.IsNamed) :
    (context.perform moment operation).context.IsNamed :=
  ⟨named.openId?_perform operation fresh, named.inTrace_perform operation fresh⟩

theorem run (named : context.IsNamed) {steps : List Step}
    (fresh : ∀ moment ∈ context.drawn steps, moment.IsNamed) : (context.run steps).IsNamed := by
  induction steps generalizing context with
  | nil => exact named
  | cons step rest ih =>
    have first := fun moment here => fresh moment (List.mem_append_left _ here)
    have others := fun moment later => fresh moment (List.mem_append_right _ later)
    refine ih (named.perform step.2 fun opens => first step.1 ?_) others
    rw [if_pos opens]
    exact List.mem_singleton_self _

end IsNamed

end Context

end TraceAgent.Native
