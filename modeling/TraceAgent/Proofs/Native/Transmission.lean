import TraceAgent.Proofs.Native.Capture
import TraceAgent.Proofs.Propagation.ExtensionHeader

/-! How long calls are on their way, whatever their headers say.

The time at which a call was sent goes from a header into a carrier, with the
carrier into a context, and with a snapshot into further contexts. Where a span
continues the call, this time is taken from that of the clock. Neither can be
before the epoch, so there is always a word for the difference.
-/

set_option autoImplicit false

namespace TraceAgent.Native

open Segment Propagation

/-- The tags that flags leave, spelled out: none without a time, and none of a call that was sent
after now. -/
theorem Span.latencyTags_eq {extension : Extension} {now : Int}
    (fits : ∀ sent, extension.sentAt = some sent → Numeral.InWidth 64 (now - sent)) :
    Span.latencyTags extension now =
      match extension.sentAt with
      | some sent =>
          if sent ≤ now then [(Extension.latencyTag, Numeral.text (now - sent))] else []
      | none => [] := by
  cases stamped : extension.sentAt with
  | none => simp [latencyTags, Extension.latency?, stamped]
  | some sent =>
    by_cases arrived : sent ≤ now
    · simp [latencyTags_of_sent stamped arrived (fits sent stamped), arrived]
    · simp [latencyTags, Extension.latency?, stamped, Numeral.wrap_of_inWidth (fits sent stamped),
        Option.filter, arrived]

def Operation.isSilent : Operation → Bool
  | stop _ | inject _ | capture | prepare _ | finish _ | awaitCompletion | asyncStop _ => true
  | _ => false

def tagsAt (spans : List Span) (index : Nat) : List (String × String) :=
  ((spans[index]?).map Span.tags).getD []

section Lists

variable {spans : List Span} {index : Nat} {change : Span → Span}

theorem tagsAt_modify_prefix (keeps : ∀ span, (change span).tags <+: span.tags) (other : Nat) :
    tagsAt (spans.modify index change) other <+: tagsAt spans other := by
  unfold tagsAt
  rw [List.getElem?_modify]
  by_cases same : index = other
  · cases spans[other]? <;> simp [same, keeps]
  · simp [same]

theorem tagsAt_modify_of_ne {other : Nat} (apart : index ≠ other) :
    tagsAt (spans.modify index change) other = tagsAt spans other := by
  simp [tagsAt, apart]

end Lists

namespace Context

variable {context after : Context} {moment : Moment} {operation : Operation} {key : SpanKey}
  {pending : Pending} {correlation : Correlation} {extension : Extension}

def tagsOf (context : Context) (key : SpanKey) : List (String × String) :=
  ((context.span? key).map Span.tags).getD []

theorem span?_here (context : Context) (index : Nat) :
    context.span? (context.keyOf index) = context.spans[index]? := by
  rw [span?_eq]
  exact if_pos rfl

@[simp] theorem tagsOf_settle (context : Context) : context.settle.1.tagsOf = context.tagsOf := by
  funext key
  simp [tagsOf]

theorem tagsOf_setCurrent (context after : Context) (past : after.past = context.past)
    (inside : key.segment = context.past.length →
      tagsAt after.spans key.index <+: tagsAt context.spans key.index) :
    after.tagsOf key <+: context.tagsOf key := by
  unfold tagsOf
  rw [span?_eq, span?_eq, past]
  split
  next here => exact inside here
  next => exact List.prefix_refl _

theorem tagsOf_modifySpan_prefix {change : Span → Span} (other : SpanKey)
    (keeps : ∀ span, (change span).tags <+: span.tags) :
    (context.modifySpan other change).tagsOf key <+: context.tagsOf key := by
  unfold tagsOf
  rw [span?_modifySpan]
  split
  · cases context.span? key <;> simp [keeps]
  · exact List.prefix_refl _

/-- Where an operation applies flags: on a new span that takes the parent which waits, on an active
span that continues a parent at once, or on the span that it is told to. -/
inductive Applies (context : Context) (moment : Moment) :
    Operation → SpanKey → Extension → Prop where
  | created {role : Role} {pending : Pending} (name peer : String)
      (alone : (context.opened moment).shared? role = none)
      (takes : (context.opened moment).taken? role = some pending) :
      Applies context moment (.create role name peer) (context.keyOf context.spans.length)
        context.extension
  | received {carrier : Carrier} {index : Nat} (valid : carrier.isValid)
      (host : (context.opened moment).host? ⟨.ofCarrier carrier, true⟩ = some index) :
      Applies context moment (.extract carrier) (context.keyOf index) carrier.extension
  | resumed {snapshot : Snapshot} {anchor : Anchor} {index : Nat}
      (anchored : snapshot.anchor = some anchor) (valid : snapshot.isValid)
      (host : (context.opened moment).host? ⟨context.referenceTo anchor, false⟩ = some index) :
      Applies context moment (.resume snapshot) (context.keyOf index) snapshot.extension
  | told {key : SpanKey} {span : Span} (extension : Extension)
      (found : context.span? key = some span) :
      Applies context moment (.applyFlags key extension) key extension

theorem spans_join :
    (context.join moment pending correlation extension).spans =
      match (context.opened moment).host? pending with
      | some index =>
          context.spans.modify index (·.continueFrom pending.parent extension moment.now)
      | none => context.spans := by
  change ((context.opened moment).link moment.now extension pending).spans = _
  rw [OpenSegment.link_eq, ← context.spans_opened moment]
  cases (context.opened moment).host? pending <;> rfl

theorem span?_join_host {index : Nat}
    (host : (context.opened moment).host? pending = some index) :
    ∃ span : Span, span.tags = context.tagsOf (context.keyOf index) ∧
      (context.join moment pending correlation extension).span? (context.keyOf index) =
        some (span.applyFlags extension moment.now) := by
  obtain ⟨span, top, _⟩ := OpenSegment.host?_eq_some.mp host
  obtain ⟨_, _, lookup⟩ := OpenSegment.top?_eq_some.mp top
  rw [spans_opened] at lookup
  refine ⟨span.addParent pending.parent, ?_, ?_⟩
  · simp [tagsOf, span?_here, lookup, Span.addParent]
  · refine (span?_here _ index).trans ?_
    rw [spans_join, host]
    simp [lookup, Span.continueFrom]

theorem tagsOf_join (apart : ∀ index, (context.opened moment).host? pending = some index →
      key ≠ context.keyOf index) :
    (context.join moment pending correlation extension).tagsOf key <+: context.tagsOf key := by
  refine tagsOf_setCurrent context _ rfl ?_
  intro here
  rw [spans_join]
  cases host : (context.opened moment).host? pending with
  | none => exact List.prefix_refl _
  | some index =>
    have other : index ≠ key.index := by
      rintro rfl
      exact apart key.index host (by rw [keyOf, ← here])
    simp [tagsAt_modify_of_ne other]

/-- A span to which an operation applies flags is one with the tags from before, or without any if
it is new. -/
theorem Applies.span? (applies : context.Applies moment operation key extension) :
    ∃ span : Span, span.tags = context.tagsOf key ∧
      (context.perform moment operation).context.span? key =
        some (span.applyFlags extension moment.now) := by
  cases applies with
  | @created role pending name peer alone takes =>
    let fresh : Span :=
      { role, parent := (context.opened moment).active.head?, name, peer, start := moment.now }
    -- There is no span of this number before, and the new one has no tags of its own.
    refine ⟨fresh.addParent pending.parent, ?_, ?_⟩
    · simp [tagsOf, span?_here, Span.addParent, fresh]
    · change (context.createSpan moment role name peer).1.span? _ = _
      rw [createSpan_of_not_shared name peer alone]
      refine (span?_here _ _).trans ?_
      change ((context.opened moment).spans ++ [_])[_]? = _
      rw [spans_opened, List.getElem?_concat_length]
      simp [OpenSegment.newSpan, takes, Span.continueFrom, fresh]
  | @received carrier index valid host =>
    change ∃ span : Span, _ ∧ (context.extract moment carrier).span? _ = _
    rw [extract_of_valid valid]
    exact span?_join_host host
  | @resumed snapshot anchor index anchored valid host =>
    change ∃ span : Span, _ ∧ (context.resume moment snapshot).span? _ = _
    rw [resume_of_valid anchored valid]
    exact span?_join_host host
  | @told key span extension found =>
    refine ⟨span, by simp [tagsOf, found], ?_⟩
    change (context.modifySpan key _).span? key = _
    rw [span?_modifySpan, if_pos rfl, found]
    rfl

theorem Applies.tagsOf (applies : context.Applies moment operation key extension) :
    (context.perform moment operation).context.tagsOf key =
      context.tagsOf key ++ Span.latencyTags extension moment.now := by
  obtain ⟨span, tags, lookup⟩ := applies.span?
  rw [← tags, ← Span.applyFlags_tags]
  simp [Context.tagsOf, lookup]

theorem tagsOf_createSpan {role : Role} {name peer : String}
    (others : ∀ extension, ¬ context.Applies moment (.create role name peer) key extension) :
    (context.createSpan moment role name peer).1.tagsOf key <+: context.tagsOf key := by
  cases shares : (context.opened moment).shared? role with
  | some index =>
    rw [createSpan_of_shared name peer shares]
    refine tagsOf_setCurrent context _ rfl ?_
    intro _
    change tagsAt ((context.opened moment).spans.modify index _) _ <+: _
    rw [spans_opened]
    apply tagsAt_modify_prefix
    intro span
    split
    -- An entry span that is entered again loses its tags.
    · exact List.nil_prefix
    · exact List.prefix_refl _
  | none =>
    rw [createSpan_of_not_shared name peer shares]
    refine tagsOf_setCurrent context _ rfl ?_
    intro here
    change tagsAt ((context.opened moment).spans ++ [_]) _ <+: _
    rw [spans_opened]
    unfold tagsAt
    rw [getElem?_concat]
    split
    next last =>
      -- A new span has no tags, unless it takes the parent that waits.
      cases takes : (context.opened moment).taken? role with
      | none => simp [OpenSegment.newSpan, takes]
      | some pending =>
        have named : key = context.keyOf context.spans.length := by
          rw [keyOf, ← here, ← last]
        exact absurd (.created name peer shares takes) (named ▸ others context.extension)
    next => exact List.prefix_refl _

/-- Neither the flags of the context nor the tags of its spans are new. -/
structure Quiet (before after : Context) : Prop where
  extension : after.extension = before.extension
  tags : ∀ key, after.tagsOf key <+: before.tagsOf key

namespace Quiet

variable {before : Context}

theorem refl (context : Context) : Quiet context context := ⟨rfl, fun _ => List.prefix_refl _⟩

theorem settle (quiet : Quiet before after) : Quiet before after.settle.1 where
  extension := (Lasting.settle ⟨rfl, rfl, rfl, rfl⟩).extension.trans quiet.extension
  tags := by
    rw [tagsOf_settle]
    exact quiet.tags

theorem counting (quiet : Quiet before after) (outstanding : Nat) :
    Quiet before { after with outstanding } := ⟨quiet.extension, quiet.tags⟩

theorem modifySpan (context : Context) (key : SpanKey) (change : Span → Span)
    (keeps : ∀ span, (change span).tags <+: span.tags) :
    Quiet context (context.modifySpan key change) where
  extension := (Lasting.modifySpan context key change).extension
  tags := fun _ => tagsOf_modifySpan_prefix key keeps

theorem leave {opened : OpenSegment} (current : context.current = some opened) (now : Int)
    (index : Nat) : Quiet context { context with current := some (opened.leave now index) } where
  extension := rfl
  tags := by
    intro key
    refine tagsOf_setCurrent context _ rfl fun _ => ?_
    change tagsAt (opened.leave now index).spans _ <+: _
    rw [OpenSegment.spans_leave, spans_of_current current]
    apply tagsAt_modify_prefix
    intro left
    unfold Span.leave
    split <;> exact List.prefix_refl _

end Quiet

theorem quiet_perform (moment : Moment) (silent : operation.isSilent) :
    Quiet context (context.perform moment operation).context := by
  cases operation with
  | stop span =>
    unfold perform
    dsimp only
    split
    next stops =>
      obtain ⟨_, index, _, current, _, _, rfl⟩ := stopSpan_eq_ok.mp stops
      exact (Quiet.leave current moment.now index).settle
    next => exact .refl context
  | prepare key =>
    unfold perform attempt
    dsimp only
    cases prepared : context.prepareAsync key with
    | error => exact .refl context
    | ok after =>
      obtain ⟨_, rfl⟩ := prepareAsync_eq_ok.mp prepared
      have awaiting := Quiet.modifySpan context key (·.awaiting) fun _ => List.prefix_refl _
      exact awaiting.counting _
  | finish key =>
    unfold perform attempt
    dsimp only
    cases finished : context.finishAsync moment.now key with
    | error => exact .refl context
    | ok after =>
      obtain ⟨_, rfl⟩ := finishAsync_eq_ok.mp finished
      have completed := Quiet.modifySpan context key (·.completedAt moment.now) fun _ =>
        List.prefix_refl _
      exact (completed.counting _).settle
  | awaitCompletion => exact (Quiet.refl context).counting _
  | asyncStop span =>
    cases span with
    | foreign => exact .refl context
    | own _ | other _ => exact ((Quiet.refl context).counting _).settle
  | inject carrier => exact .refl context
  | capture => exact .refl context
  | _ => cases silent

/-- No other span gets a tag, except by a remark. -/
theorem tagsOf_perform (plain : ∀ key remark, operation ≠ .annotate key remark)
    (others : ∀ extension, ¬ context.Applies moment operation key extension) :
    (context.perform moment operation).context.tagsOf key <+: context.tagsOf key := by
  cases operation with
  | create role name peer => exact tagsOf_createSpan others
  | extract carrier =>
    change (context.extract moment carrier).tagsOf key <+: _
    by_cases valid : carrier.isValid
    · rw [extract_of_valid valid]
      apply tagsOf_join
      rintro index host rfl
      exact others _ (.received valid host)
    · simp [extract, valid]
  | resume snapshot =>
    change (context.resume moment snapshot).tagsOf key <+: _
    by_cases valid : snapshot.isValid
    · obtain ⟨anchor, anchored⟩ := snapshot.exists_anchor valid
      rw [resume_of_valid anchored valid]
      apply tagsOf_join
      rintro index host rfl
      exact others _ (.resumed anchored valid host)
    · simp [resume_of_invalid valid]
  | applyFlags other extension =>
    change (context.modifySpan other _).tagsOf key <+: _
    unfold Context.tagsOf
    rw [span?_modifySpan]
    split
    next same =>
      subst same
      cases found : context.span? other with
      | none => exact List.prefix_refl _
      | some span => exact absurd (.told extension found) (others extension)
    next => exact List.prefix_refl _
  | annotate other remark => exact absurd rfl (plain other remark)
  | _ => exact (quiet_perform moment rfl).tags key

end Context

def Operation.continued? : Operation → Option Extension
  | .extract carrier => some carrier.extension
  | .resume snapshot => some snapshot.extension
  | _ => none

def Output.extension? : Output → Option Extension
  | .carrier prepared => some prepared.extension
  | .snapshot taken => some taken.extension
  | .done | .span _ | .stopped _ => none

namespace Context

variable {context : Context} {moment : Moment} {operation : Operation}

theorem extension_perform (context : Context) (moment : Moment) (operation : Operation) :
    (context.perform moment operation).context.extension = context.extension ∨
      operation.continued? = some (context.perform moment operation).context.extension := by
  cases operation with
  | create role name peer => exact .inl rfl
  | extract carrier =>
    by_cases valid : carrier.isValid
    · right
      simp [perform, extract, valid, join, Operation.continued?]
    · left
      simp [perform, extract, valid]
  | resume snapshot =>
    by_cases valid : snapshot.isValid
    · obtain ⟨anchor, anchored⟩ := snapshot.exists_anchor valid
      right
      simp [perform, resume_of_valid anchored valid, join, Operation.continued?]
    · left
      simp [perform, resume_of_invalid valid]
  | annotate key remark => exact .inl (Lasting.modifySpan context key _).extension
  | applyFlags key extension => exact .inl (Lasting.modifySpan context key _).extension
  | _ => exact .inl (quiet_perform moment rfl).extension

theorem extension_result {output : Output} {extension : Extension}
    (result : (context.perform moment operation).result = .ok output)
    (flagged : output.extension? = some extension) :
    extension = context.extension ∨ extension = context.extension.sentNow moment.now := by
  cases operation with
  | inject carrier =>
    cases injected : context.inject moment.now carrier with
    | error => simp [perform, injected, Except.map] at result
    | ok prepared =>
      simp only [perform, injected, Except.map, Except.ok.injEq] at result
      subst result
      cases flagged
      exact .inr (inject_carries injected).2
  | capture =>
    cases captured : context.capture with
    | error => simp [perform, captured, Except.map] at result
    | ok taken =>
      simp only [perform, captured, Except.map, Except.ok.injEq] at result
      subst result
      cases flagged
      exact .inl (capture_carries captured).2
  | stop span =>
    unfold perform at result
    dsimp only at result
    split at result <;> cases result
    cases flagged
  | prepare key | finish key | asyncStop span =>
    unfold perform attempt at result
    dsimp only at result
    split at result <;> cases result
    cases flagged
  | _ =>
    cases result
    cases flagged

end Context

/-- Contexts, and the carriers and snapshots that go between them. All that a carrier or a snapshot
ever was is here, so that each can be used again as it was. -/
structure Exchange where
  contexts : List Context := []
  carriers : List Carrier := []
  snapshots : List Snapshot := []

namespace Exchange

inductive Holds (exchange : Exchange) : Extension → Prop where
  | carrier {carrier : Carrier} (member : carrier ∈ exchange.carriers) :
      Holds exchange carrier.extension
  | context {context : Context} (member : context ∈ exchange.contexts) :
      Holds exchange context.extension
  | snapshot {snapshot : Snapshot} (member : snapshot ∈ exchange.snapshots) :
      Holds exchange snapshot.extension

def Permits (exchange : Exchange) : Operation → Prop
  | .inject carrier | .extract carrier => carrier ∈ exchange.carriers
  | .resume snapshot => snapshot ∈ exchange.snapshots
  | .applyFlags _ extension => exchange.Holds extension
  | _ => True

def keep (exchange : Exchange) : Except TraceError Output → Exchange
  | .ok (.carrier carrier) => { exchange with carriers := carrier :: exchange.carriers }
  | .ok (.snapshot snapshot) => { exchange with snapshots := snapshot :: exchange.snapshots }
  | _ => exchange

/-- What can happen at a moment. A carrier receives its flags from headers with any text, and from
contexts. All else of a carrier or a snapshot may be changed in any way. -/
inductive Next (exchange : Exchange) (moment : Moment) : Exchange → Prop where
  | start (config : AgentConfig) :
      Next exchange moment
        { exchange with contexts := exchange.contexts ++ [.begin config moment] }
  | carry (names : List String) :
      Next exchange moment { exchange with carriers := .expecting names :: exchange.carriers }
  | receive {carrier : Carrier} (present : carrier ∈ exchange.carriers) (name text : String) :
      Next exchange moment
        { exchange with carriers := carrier.receiveItem name text :: exchange.carriers }
  | editCarrier {carrier other : Carrier} (present : carrier ∈ exchange.carriers)
      (stamp : other.extension.sentAt = carrier.extension.sentAt) :
      Next exchange moment { exchange with carriers := other :: exchange.carriers }
  | editSnapshot {snapshot other : Snapshot} (present : snapshot ∈ exchange.snapshots)
      (stamp : other.extension.sentAt = snapshot.extension.sentAt) :
      Next exchange moment { exchange with snapshots := other :: exchange.snapshots }
  | operate {number : Nat} {context : Context} {operation : Operation}
      (found : exchange.contexts[number]? = some context) (permitted : exchange.Permits operation) :
      Next exchange moment
        ({ exchange with
          contexts := exchange.contexts.set number (context.perform moment operation).context
        }.keep (context.perform moment operation).result)

/-- What some run leads to, with a clock that is not before the epoch. -/
inductive Reached : Exchange → Prop where
  | empty : Reached {}
  | next {exchange after : Exchange} {moment : Moment} (reached : Reached exchange)
      (clock : Extension.IsTime moment.now) (next : Next exchange moment after) : Reached after

structure IsTimely (exchange : Exchange) : Prop where
  contexts : ∀ context ∈ exchange.contexts, context.extension.IsTimely
  carriers : ∀ carrier ∈ exchange.carriers, carrier.extension.IsTimely
  snapshots : ∀ snapshot ∈ exchange.snapshots, snapshot.extension.IsTimely

variable {exchange after : Exchange} {context : Context} {moment : Moment} {operation : Operation}
  {extension : Extension}

theorem IsTimely.of_holds (timely : exchange.IsTimely) (holds : exchange.Holds extension) :
    extension.IsTimely := by
  cases holds with
  | carrier member => exact timely.carriers _ member
  | context member => exact timely.contexts _ member
  | snapshot member => exact timely.snapshots _ member

theorem IsTimely.with_carrier {carrier : Carrier} (timely : exchange.IsTimely)
    (stamped : carrier.extension.IsTimely) :
    IsTimely { exchange with carriers := carrier :: exchange.carriers } :=
  { timely with carriers := List.forall_mem_cons.mpr ⟨stamped, timely.carriers⟩ }

theorem IsTimely.with_snapshot {snapshot : Snapshot} (timely : exchange.IsTimely)
    (stamped : snapshot.extension.IsTimely) :
    IsTimely { exchange with snapshots := snapshot :: exchange.snapshots } :=
  { timely with snapshots := List.forall_mem_cons.mpr ⟨stamped, timely.snapshots⟩ }

theorem IsTimely.keep {result : Except TraceError Output} (timely : exchange.IsTimely)
    (stamped : ∀ output extension, result = .ok output → output.extension? = some extension →
      extension.IsTimely) : (exchange.keep result).IsTimely := by
  unfold Exchange.keep
  split
  · exact timely.with_carrier (stamped _ _ rfl rfl)
  · exact timely.with_snapshot (stamped _ _ rfl rfl)
  · exact timely

/-- A header with any text leaves a carrier without a time before the epoch. -/
theorem isTimely_receiveItem {carrier : Carrier} (timely : carrier.extension.IsTimely)
    (name text : String) : (carrier.receiveItem name text).extension.IsTimely := by
  unfold Carrier.receiveItem
  split
  · exact timely
  · split
    · exact timely
    · split
      · exact timely.receive (some text)
      · exact timely

/-- So does an operation leave a context, which has its flags from what it is given. -/
theorem IsTimely.perform (timely : exchange.IsTimely) (present : context ∈ exchange.contexts)
    (permitted : exchange.Permits operation) :
    (context.perform moment operation).context.extension.IsTimely := by
  rcases context.extension_perform moment operation with same | continued
  · rw [same]
    exact timely.contexts context present
  · cases operation with
    | extract carrier =>
      rw [← Option.some.inj continued]
      exact timely.carriers carrier permitted
    | resume snapshot =>
      rw [← Option.some.inj continued]
      exact timely.snapshots snapshot permitted
    | _ => cases continued

theorem IsTimely.next (timely : exchange.IsTimely) (clock : Extension.IsTime moment.now)
    (next : Next exchange moment after) : after.IsTimely := by
  cases next with
  | start config =>
    -- Neither a new context nor a new carrier knows of any call.
    refine { timely with contexts := List.forall_mem_append.mpr ⟨timely.contexts, ?_⟩ }
    simp [Context.begin, Extension.IsTimely]
  | carry names =>
    apply timely.with_carrier
    unfold Carrier.expecting
    split <;> simp [Extension.IsTimely]
  | receive present name text =>
    exact timely.with_carrier (isTimely_receiveItem (timely.carriers _ present) name text)
  | editCarrier present stamp =>
    apply timely.with_carrier
    unfold Extension.IsTimely
    rw [stamp]
    exact timely.carriers _ present
  | editSnapshot present stamp =>
    apply timely.with_snapshot
    unfold Extension.IsTimely
    rw [stamp]
    exact timely.snapshots _ present
  | operate found permitted =>
    have present := List.mem_of_getElem? found
    apply IsTimely.keep
    · refine { timely with contexts := fun context member => ?_ }
      rcases List.mem_or_eq_of_mem_set member with member | rfl
      · exact timely.contexts context member
      · exact timely.perform present permitted
    · intro output extension result flagged
      -- The only new time is that of the clock, which goes along with a call.
      rcases Context.extension_result result flagged with rfl | rfl
      · exact timely.contexts _ present
      · exact .sentNow clock _

theorem Reached.isTimely (reached : exchange.Reached) : exchange.IsTimely := by
  induction reached with
  | empty => constructor <;> exact fun _ => (nomatch ·)
  | next _ clock next timely => exact timely.next clock next

/-- The flags that an operation applies are those of a context, or what it is given. -/
theorem Permits.holds {key : SpanKey} (permitted : exchange.Permits operation)
    (present : context ∈ exchange.contexts)
    (applies : context.Applies moment operation key extension) : exchange.Holds extension := by
  cases applies with
  | created name peer alone takes => exact .context present
  | received valid host => exact .carrier permitted
  | resumed anchored valid host => exact .snapshot permitted
  | told extension found => exact permitted

/-- No header makes the latency of a call overflow. Whatever texts carriers receive, the times that
carriers, contexts and snapshots have are not before the epoch and fit into a word. So does the
difference to the time of the clock, wherever flags are applied to a span. The span gets the tag
with this difference unless the call was sent after now, and no other span gets a tag but by a
remark. -/
theorem latency_never_overflows (reached : exchange.Reached) :
    (∀ extension, exchange.Holds extension → extension.IsTimely) ∧
      ∀ (number : Nat) (context : Context) (moment : Moment) (operation : Operation),
        exchange.contexts[number]? = some context → exchange.Permits operation →
        Extension.IsTime moment.now →
        (∀ key extension, context.Applies moment operation key extension →
          (∀ sent, extension.sentAt = some sent → Numeral.InWidth 64 (moment.now - sent)) ∧
          (∃ span : Span, span.tags = context.tagsOf key ∧
            (context.perform moment operation).context.span? key =
              some (span.applyFlags extension moment.now)) ∧
          (context.perform moment operation).context.tagsOf key = context.tagsOf key ++
            match extension.sentAt with
            | some sent =>
                if sent ≤ moment.now then
                  [(Extension.latencyTag, Numeral.text (moment.now - sent))]
                else []
            | none => []) ∧
        ((∀ key remark, operation ≠ .annotate key remark) →
          ∀ key, (∀ extension, ¬ context.Applies moment operation key extension) →
            (context.perform moment operation).context.tagsOf key <+: context.tagsOf key) := by
  refine ⟨fun extension => reached.isTimely.of_holds, ?_⟩
  intro number context moment operation found permitted clock
  refine ⟨fun key extension applies => ?_, fun plain key others => ?_⟩
  · have holds := permitted.holds (List.mem_of_getElem? found) applies
    have fits : ∀ sent, extension.sentAt = some sent → Numeral.InWidth 64 (moment.now - sent) :=
      fun sent stamped => clock.sub (reached.isTimely.of_holds holds sent stamped)
    refine ⟨fits, applies.span?, ?_⟩
    rw [applies.tagsOf, Span.latencyTags_eq fits]
  · exact Context.tagsOf_perform plain others

def epoch : Moment := ⟨0, "segment", "trace"⟩

def serving : Context :=
  ((Context.begin { instanceName := "callee" } epoch).createSpan epoch .entry "/serve" "").1

def stamped : Carrier := Carrier.receiveItem {} Extension.header "0-9223372036854775807"

def lateCall : Carrier :=
  { stamped with
    origin :=
      { traceId := "trace", segmentId := "segment", spanId := 0, service := "caller",
        instanceName := "instance", endpoint := "/call", address := "callee:80" } }

theorem lateCall_reached :
    Reached { contexts := [serving], carriers := [lateCall, stamped, {}] } := by
  have clock : Extension.IsTime epoch.now := by decide
  have begun : Reached { contexts := [.begin { instanceName := "callee" } epoch] } :=
    .next .empty clock (.start _)
  have entered : Reached { contexts := [serving] } :=
    .next begun clock (@Next.operate _ epoch 0 _ (.create .entry "/serve" "") rfl trivial)
  have carried : Reached { contexts := [serving], carriers := [{}] } :=
    .next entered clock (.carry [])
  have received : Reached { contexts := [serving], carriers := [stamped, {}] } :=
    .next carried clock (.receive (by simp) Extension.header "0-9223372036854775807")
  exact .next received clock (.editCarrier List.mem_cons_self rfl)

/-- At the epoch, the call with the greatest time leaves no tag, and at this time itself the tag of no
latency. -/
theorem lateCall_times :
    Reached { contexts := [serving], carriers := [lateCall, stamped, {}] } ∧
      lateCall.extension.sentAt = some 9223372036854775807 ∧
      Numeral.InWidth 64 (0 - 9223372036854775807) ∧
      (serving.perform epoch (.extract lateCall)).context.tagsOf ⟨0, 0⟩ = [] ∧
      (serving.perform { epoch with now := 9223372036854775807 }
        (.extract lateCall)).context.tagsOf ⟨0, 0⟩ = [(Extension.latencyTag, "0")] := by
  have sent : lateCall.extension.sentAt = some 9223372036854775807 := by decide +kernel
  have calls (moment : Moment) :
      serving.Applies moment (.extract lateCall) ⟨0, 0⟩ lateCall.extension :=
    .received (by decide) (by rfl)
  obtain ⟨_, safe⟩ := latency_never_overflows lateCall_reached
  obtain ⟨early, _⟩ := safe 0 serving epoch (.extract lateCall) rfl List.mem_cons_self (by decide)
  obtain ⟨timely, _⟩ := safe 0 serving { epoch with now := 9223372036854775807 }
    (.extract lateCall) rfl List.mem_cons_self (by decide)
  obtain ⟨fits, _, silent⟩ := early _ _ (calls _)
  obtain ⟨_, _, tagged⟩ := timely _ _ (calls _)
  rw [sent] at silent tagged
  exact ⟨lateCall_reached, sent, fits _ sent, silent, tagged⟩

end Exchange

end TraceAgent.Native
