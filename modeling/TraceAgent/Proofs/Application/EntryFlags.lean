import TraceAgent.Application.Spans
import TraceAgent.Proofs.Application.CrossProcess

/-! What a received call leaves on the span that receives it.

The flags of a call are applied to the span that continues it: a new entry span
as it is created, an active entry span at once. The active one is then entered
for the call itself, which drops the remarks from before, and with them how long
the call was on its way. The mark that its analysis is skipped is no remark and
stays.
-/

set_option autoImplicit false

namespace TraceAgent

open Propagation
open Segment (Role Parent)

namespace Native

namespace Span

theorem applyFlags_skipAnalysis (span : Span) (extension : Extension) (now : Int) :
    (span.applyFlags extension now).skipAnalysis =
      (span.skipAnalysis || extension.skipAnalysis) := by
  unfold applyFlags addTag
  cases extension.skipAnalysis <;> cases extension.latency? now <;> simp

end Span

namespace OpenSegment

/-- The entry span of a call that was continued just before: an active entry span carries the mark
of the call, and none of its tags; a new one carries both. -/
theorem flags_after_link (opened : OpenSegment) (now later : Int) (extension : Extension)
    (parent : Parent) (name peer : String) :
    let entered := (opened.link now extension ⟨parent, true⟩).enter later extension .entry name peer
    ∃ span, entered.1.spans[entered.2]? = some span ∧
      (extension.skipAnalysis → span.skipAnalysis) ∧
      span.tags = if (opened.host? ⟨parent, true⟩).isSome then []
        else Span.latencyTags extension later := by
  dsimp only
  have marks : ∀ (span : Span) (time : Int), extension.skipAnalysis →
      (span.continueFrom parent extension time).skipAnalysis := by
    intro span time skips
    exact (Span.applyFlags_skipAnalysis _ extension time).trans (by rw [skips, Bool.or_true])
  cases opened.entersBehind now later extension extension parent name peer with
  | again span host lookup role stored =>
    -- The entrance comes last, and takes the tags of the call for remarks from before.
    exact ⟨_, stored, marks span now, by rw [host]; rfl⟩
  | anew host number stored =>
    refine ⟨_, stored, marks _ later, ?_⟩
    rw [host]
    exact Span.applyFlags_tags _ extension later

end OpenSegment

namespace Context

variable {context : Context}

def ServesEntry (context : Context) : Prop :=
  ∃ index span, context.top? = some (index, span) ∧ span.role = .entry

theorem host?_isSome (context : Context) (moment : Moment) (parent : Parent) :
    ((context.opened moment).host? ⟨parent, true⟩).isSome ↔ context.ServesEntry := by
  have top : (context.opened moment).top? = context.top? := by
    unfold opened Context.top?
    cases context.current <;> rfl
  unfold ServesEntry
  rw [Option.isSome_iff_exists, ← top]
  simp only [OpenSegment.host?_eq_some, Pending.suits]
  simp

/-- What a received call leaves on the entry span that is created next. -/
theorem extract_create_flags (context : Context) {carrier : Carrier} (valid : carrier.isValid)
    (moment later : Moment) (name : String) :
    ∃ span, ((context.extract moment carrier).createSpan later .entry name "").1.span?
        ((context.extract moment carrier).createSpan later .entry name "").2 = some span ∧
      (carrier.extension.skipAnalysis → span.skipAnalysis) ∧
      (context.ServesEntry → span.tags = []) ∧
      (¬ context.ServesEntry → span.tags = Span.latencyTags carrier.extension later.now) := by
  obtain ⟨span, lookup, marked, tags⟩ := (context.opened moment).flags_after_link moment.now
    later.now carrier.extension (.ofCarrier carrier) name ""
  rw [extract_of_valid valid]
  refine ⟨span, ?_, marked, fun serves => ?_, fun free => ?_⟩
  · rw [span?_eq]
    exact (if_pos rfl).trans lookup
  · rw [tags, if_pos ((context.host?_isSome moment _).mpr serves)]
  · rw [tags, if_neg fun host => free ((context.host?_isSome moment _).mp host)]

end Context

end Native

namespace Application

variable {app : Application} {thread agent : Nat}

/-- The active span of a thread is an entry span. -/
def ServesEntry (app : Application) (thread : Nat) : Prop :=
  ∃ span view, app.activeBound thread = .ok span ∧ app.view? span = some view ∧ view.isEntry

theorem servesEntry_iff {id : Nat} {context : Native.Context}
    (serves : app.Serves thread id context) : app.ServesEntry thread ↔ context.ServesEntry := by
  rcases serves with ⟨bound, owner, found⟩ | ⟨free, _, config, moment, rfl⟩
  · have active : app.activeBound thread = context.activeSpan.map (.native id) := by
      unfold activeBound
      rw [bound]
      exact activeSpan_native found
    unfold ServesEntry Native.Context.ServesEntry Native.Context.activeSpan at *
    cases top : context.top? with
    | none =>
      rw [top] at active
      simp [active, Except.map]
    | some innermost =>
      obtain ⟨index, span⟩ := innermost
      rw [top] at active
      have here : context.span? (context.keyOf index) = some span := by
        obtain ⟨opened, current, inside⟩ := Option.bind_eq_some_iff.mp top
        obtain ⟨_, _, lookup⟩ := Native.OpenSegment.top?_eq_some.mp inside
        rw [Native.Context.span?_eq, Native.Context.spans_of_current current]
        exact (if_pos rfl).trans lookup
      have recorded : app.nativeSpan? id (context.keyOf index) = some span := by
        unfold nativeSpan?
        rw [found]
        exact here
      have view : app.view? (.native id (context.keyOf index)) = some
          { id := index, name := span.name, isEntry := span.role == .entry,
            isExit := span.role == .exit } := by
        change (app.nativeSpan? id (context.keyOf index)).map _ = _
        rw [recorded]
        rfl
      simp [active, Except.map, view]
  · have idle : app.activeBound thread = .error .noActiveSpan := by
      unfold activeBound
      rw [free]
    unfold ServesEntry Native.Context.ServesEntry
    rw [idle]
    constructor
    · rintro ⟨_, _, ⟨⟩, _⟩
    · rintro ⟨_, _, ⟨⟩, _⟩

/-- How long a call was on its way shows on the span that receives it exactly if no entry span is
active before. Whatever a native thread did, an entry span with a valid carrier that was sent
before now is created, and it has the mark that its analysis is skipped if the call has it. A new
span shows the latency of the call, as long as there is a word for it; an active entry span that is
entered again shows no tag at all. -/
theorem latency_shown_iff (native : app.RunsNative thread agent) (name : String)
    {carrier : Carrier} (valid : carrier.isValid) {sent : Int}
    (stamped : carrier.extension.sentAt = some sent) (arrived : sent ≤ app.now)
    (fits : Numeral.InWidth 64 (app.now - sent)) :
    ∃ received id key span,
      app.enterEntry thread agent name (some carrier) =
        (received, some carrier, .ok (.native id key)) ∧
      received.nativeSpan? id key = some span ∧
      (carrier.extension.skipAnalysis → span.skipAnalysis) ∧
      (app.ServesEntry thread → span.tags = []) ∧
      ((Extension.latencyTag, Numeral.text (app.now - sent)) ∈ span.tags ↔
        ¬ app.ServesEntry thread) := by
  obtain ⟨owner, context, serves, found⟩ := obtain_native native
  obtain ⟨received, moment, later, enters, _, stored, clock⟩ := enterEntry_native name carrier found
  obtain ⟨span, here, marked, dropped, shown⟩ :=
    context.extract_create_flags valid moment later (cutName name)
  rw [clock, Native.latencyTags_of_sent stamped arrived fits, ← servesEntry_iff serves] at shown
  rw [← servesEntry_iff serves] at dropped
  refine ⟨received, _, _, span, enters, ?_, marked, dropped, fun listed again => ?_, fun free => ?_⟩
  · unfold nativeSpan?
    rw [stored]
    exact here
  · rw [dropped again] at listed
    cases listed
  · rw [shown free]
    exact List.mem_singleton_self _

def flaggedCall : Carrier where
  origin :=
    { traceId := "trace", segmentId := "segment", spanId := 0, service := "caller",
      instanceName := "instance", endpoint := "/call", address := "callee:80" }
  extension := { skipAnalysis := true, sentAt := some 0 }

theorem idle_service_shows_latency :
    ∃ received id key span,
      (service "callee").enterEntry 0 0 "/serve" (some flaggedCall) =
        (received, some flaggedCall, .ok (.native id key)) ∧
      received.nativeSpan? id key = some span ∧
      (flaggedCall.extension.skipAnalysis → span.skipAnalysis) ∧
      ((service "callee").ServesEntry 0 → span.tags = []) ∧
      ((Extension.latencyTag, Numeral.text ((service "callee").now - 0)) ∈ span.tags ↔
        ¬ (service "callee").ServesEntry 0) := by
  have native : (service "callee").RunsNative 0 0 := ⟨_, _, _, rfl⟩
  exact latency_shown_iff native "/serve" (by decide) rfl (by decide) (by decide)

/-- The nested entry point of a service receives a valid call, and its span does not show how long
the call was on its way. -/
theorem nested_entry_hides_latency :
    ∃ received span,
      ((service "callee").enterEntry 0 0 "/serve" none).1.enterEntry 0 0 "/nested"
          (some flaggedCall) = (received, some flaggedCall, .ok (.native 0 ⟨0, 0⟩)) ∧
        received.nativeSpan? 0 ⟨0, 0⟩ = some span ∧ flaggedCall.isValid ∧
        flaggedCall.extension.sentAt = some 0 ∧
        ((service "callee").enterEntry 0 0 "/serve" none).1.now = 0 ∧
        (Extension.latencyTag, Numeral.text (0 - 0)) ∉ span.tags := by
  refine ⟨_, _, rfl, rfl, by decide, rfl, rfl, by decide⟩

end Application

end TraceAgent
