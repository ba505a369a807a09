import Mathlib.Data.List.Nodup
import TraceAgent.Proofs.Native.SpanTree

/-! The spans that a context names to others.

A call takes along the ids of the segment and of the exit span that make it, and
a snapshot those of the active span. Whoever receives them refers to this span
as a parent. The ids of a span are settled when it is created, so the reference
holds from then on: the span is found in the open segment, and later in the
report of this segment.
-/

set_option autoImplicit false

namespace TraceAgent.Native

open Segment Propagation

/-- What a context hands out for others to continue: its trace and a span of it. -/
structure HandOut where
  traceId : String
  segmentId : String
  spanId : Int
  /-- The hand-out goes along with a call. -/
  calls : Bool
  deriving DecidableEq, Repr

def Output.handOut? : Output → Option HandOut
  | .carrier prepared => some
      { traceId := prepared.origin.traceId
        segmentId := prepared.origin.segmentId
        spanId := prepared.origin.spanId
        calls := true }
  | .snapshot taken => taken.anchor.map fun anchor =>
      { traceId := anchor.traceId.id
        segmentId := anchor.segmentId
        spanId := anchor.spanId
        calls := false }
  | .done | .span _ | .stopped _ => none

namespace Context

variable {context : Context} {moment : Moment} {operation : Operation}

theorem capture_eq_ok {snapshot : Snapshot} (captured : context.capture = .ok snapshot) :
    ∃ opened index span, context.current = some opened ∧ opened.top? = some (index, span) ∧
      snapshot.anchor = some
        { traceId := opened.segment.traceId
          segmentId := opened.segment.id
          spanId := index
          endpoint := opened.endpointName } := by
  unfold capture at captured
  cases current : context.current with
  | none => simp [current] at captured
  | some opened =>
    cases top : opened.top? with
    | none => simp [current, top] at captured
    | some found =>
      simp [current, top] at captured
      exact ⟨opened, found.1, found.2, rfl, top, by rw [← captured]⟩

/-- What is handed out names the active span, which is an exit span if it makes a call. -/
theorem perform_handOut {output : Output} {handOut : HandOut}
    (result : (context.perform moment operation).result = .ok output)
    (hands : output.handOut? = some handOut) :
    ∃ opened index span, context.current = some opened ∧ opened.top? = some (index, span) ∧
      handOut.traceId = opened.segment.traceId.id ∧ handOut.segmentId = opened.segment.id ∧
      handOut.spanId = index ∧ (handOut.calls → span.role = .exit) := by
  cases operation with
  | inject received =>
    unfold perform at result
    cases injected : context.inject moment.now received with
    | error => simp [injected, Except.map] at result
    | ok prepared =>
      simp only [injected, Except.map, Except.ok.injEq] at result
      subst result
      cases hands
      obtain ⟨opened, index, span, current, top, role, _, origin⟩ := inject_eq_ok injected
      rw [origin]
      exact ⟨opened, index, span, current, top, rfl, rfl, rfl, fun _ => role⟩
  | capture =>
    unfold perform at result
    cases captured : context.capture with
    | error => simp [captured, Except.map] at result
    | ok taken =>
      simp only [captured, Except.map, Except.ok.injEq] at result
      subst result
      obtain ⟨opened, index, span, current, top, anchor⟩ := capture_eq_ok captured
      simp only [Output.handOut?, anchor, Option.map_some, Option.some.injEq] at hands
      subst hands
      exact ⟨opened, index, span, current, top, rfl, rfl, rfl, (nomatch ·)⟩
  | stop span =>
    unfold perform at result
    dsimp only at result
    split at result <;> cases result
    cases hands
  | prepare key =>
    unfold perform attempt at result
    dsimp only at result
    split at result <;> cases result
    cases hands
  | finish key =>
    unfold perform attempt at result
    dsimp only at result
    split at result <;> cases result
    cases hands
  | asyncStop span =>
    unfold perform attempt at result
    dsimp only at result
    split at result <;> cases result
    cases hands
  | _ =>
    cases result
    cases hands

end Context

namespace Depicts

variable {report : Segment} {descents : List Descent} {order : List Nat}

theorem ids_nodup (depicts : Depicts report descents order) :
    (report.spans.map SpanRecord.id).Nodup := by
  refine depicts.ids.nodup_iff.mpr ?_
  exact List.Nodup.map (fun _ _ => Int.ofNat.inj) List.nodup_range

theorem listed_once (depicts : Depicts report descents order) {number : Nat} {descent : Descent}
    (found : descents[number]? = some descent) :
    ∃ record, (report.spans.filter fun other => other.id = (number : Int)) = [record] ∧
      record.role = descent.role := by
  have place : descent.place number ∈
      descents.mapIdx fun number descent => descent.place number := by
    refine List.mem_iff_getElem?.mpr ⟨number, ?_⟩
    rw [List.getElem?_mapIdx, found]
    rfl
  obtain ⟨record, member, same⟩ := List.mem_map.mp (depicts.placed.mem_iff.mpr place)
  have id : record.id = number := congrArg (·.1) same
  have role : record.role = descent.role := congrArg (·.2.2) same
  exact ⟨record, id ▸ filter_eq_singleton depicts.ids_nodup member, role⟩

end Depicts

namespace Journal

/-- The span that was handed out is found, and is an exit span if it makes a call: as one of the
active and finished spans of the open segment, while no report has the id of this segment; or as
one of the spans of a report, the only one with the id of the segment, which then is not open. -/
inductive Keeps (journal : Journal) (handOut : HandOut) : Prop where
  | standing (opened : OpenSegment) (index : Nat) (span : Span)
      (current : journal.context.current = some opened)
      (id : opened.segment.id = handOut.segmentId)
      (unreported : ∀ report ∈ journal.reports, report.id ≠ handOut.segmentId)
      (number : handOut.spanId = index)
      (once : (opened.active ++ opened.finished).count index = 1)
      (found : opened.spans[index]? = some span)
      (calls : handOut.calls → span.role = .exit)
  | reported (report : Segment) (record : SpanRecord)
      (once : (journal.reports.filter fun report => report.id = handOut.segmentId) = [report])
      (unopened : journal.context.openId? ≠ some handOut.segmentId)
      (found : (report.spans.filter fun record => record.id = handOut.spanId) = [record])
      (calls : handOut.calls → record.role = .exit)

theorem run_append (journal : Journal) (steps more : List Step) :
    journal.run (steps ++ more) = (journal.run steps).run more := List.foldl_append

theorem openings_run (journal : Journal) (steps : List Step) :
    journal.openings <+: (journal.run steps).openings := by
  induction steps generalizing journal with
  | nil => exact List.prefix_refl _
  | cons step steps ih => exact (List.prefix_append _ _).trans (ih (journal.step step))

/-- A segment is found where it was opened: among the reports, or as the open one. -/
theorem Consistent.segment_of_opening {journal : Journal} (consistent : journal.Consistent)
    {home : Nat} {id : String} (opening : journal.openings[home]? = some id) :
    (∃ report, journal.reports[home]? = some report ∧ report.id = id) ∨
      home = journal.reports.length ∧ journal.context.openId? = some id := by
  rw [consistent.order] at opening
  by_cases reported : home < journal.reports.length
  · rw [List.getElem?_append_left (by simpa using reported), List.getElem?_map] at opening
    obtain ⟨report, found, same⟩ := Option.map_eq_some_iff.mp opening
    exact .inl ⟨report, found, same⟩
  · rw [List.getElem?_append_right (by simpa using reported), List.length_map] at opening
    cases openId : journal.context.openId? with
    | none =>
      rw [openId] at opening
      cases opening
    | some openId =>
      rw [openId, Option.toList_some, List.getElem?_singleton] at opening
      split at opening
      next here => exact .inr ⟨by omega, opening ▸ rfl⟩
      next => cases opening

/-- If no id was given to two segments, the span with a number in the segment with an id is found
in one place. -/
theorem Consistent.keeps {journal : Journal} (consistent : journal.Consistent)
    (distinct : journal.openings.Nodup) {handOut : HandOut} {home index : Nat} {descent : Descent}
    (depicted : ∀ report, journal.reports[home]? = some report →
      ∃ order, Depicts report (journal.context.descents home) order)
    (opening : journal.openings[home]? = some handOut.segmentId)
    (number : handOut.spanId = index)
    (place : (journal.context.descents home)[index]? = some descent)
    (calls : handOut.calls → descent.role = .exit) : journal.Keeps handOut := by
  rw [consistent.order] at distinct
  obtain ⟨apart, _, across⟩ := List.nodup_append.mp distinct
  rcases consistent.segment_of_opening opening with ⟨report, found, id⟩ | ⟨here, openId⟩
  · obtain ⟨order, depicts⟩ := depicted report found
    obtain ⟨record, once, role⟩ := depicts.listed_once place
    have member := List.mem_of_getElem? found
    refine .reported report record (id ▸ filter_eq_singleton apart member) ?_ (number ▸ once) ?_
    · intro openId
      refine across report.id (List.mem_map_of_mem member) handOut.segmentId ?_ id
      rw [openId]
      exact List.mem_singleton_self _
    · exact fun made => role.trans (calls made)
  · obtain ⟨opened, current, id⟩ := Option.map_eq_some_iff.mp openId
    have sound := consistent.shape opened current
    rw [here, ← consistent.ordinal, Context.descents_open, Context.spans_of_current current,
      List.getElem?_map] at place
    obtain ⟨span, found, rfl⟩ := Option.map_eq_some_iff.mp place
    obtain ⟨bound, _⟩ := List.getElem?_eq_some_iff.mp found
    refine .standing opened index span current id ?_ number ?_ found calls
    · intro report member same
      refine across report.id (List.mem_map_of_mem member) handOut.segmentId ?_ same
      rw [openId]
      exact List.mem_singleton_self _
    · exact List.count_eq_one_of_mem sound.nodup
        (sound.numbered.mem_iff.mpr (List.mem_range.mpr bound))

/-- Every span that was handed out is found ever after, if no segment gets the id of another. -/
theorem run_keeps_handOut (config : AgentConfig) (moment : Moment) (steps : List Step)
    (step : Step) (more : List Step) {output : Output} {handOut : HandOut}
    (result : (((Journal.begin config moment).run steps).context.perform step.1 step.2).result =
      .ok output)
    (hands : output.handOut? = some handOut)
    (distinct : ((Journal.begin config moment).run (steps ++ step :: more)).openings.Nodup) :
    ((Journal.begin config moment).run (steps ++ step :: more)).Keeps handOut := by
  have before := (Consistent.begin config moment).run steps
  have after := (Consistent.begin config moment).run (steps ++ step :: more)
  have depicted := Chronicle.run_depicts config moment (steps ++ step :: more)
  have sound : ((Journal.begin config moment).run steps).context.Sound := by
    rw [context_run]
    exact (Context.Sound.begin config moment).run steps
  rw [run_append] at distinct after depicted ⊢
  generalize (Journal.begin config moment).run steps = journal at *
  obtain ⟨opened, index, span, current, top, _, segmentId, number, calls⟩ :=
    Context.perform_handOut result hands
  obtain ⟨rest, _, lookup⟩ := OpenSegment.top?_eq_some.mp top
  have opening : journal.openings[journal.reports.length]? = some handOut.segmentId := by
    have count : journal.reports.length = (journal.reports.map (·.id)).length := by
      rw [List.length_map]
    rw [before.order, Context.openId?, current, segmentId, count]
    exact List.getElem?_concat_length
  have place : (journal.context.descents journal.reports.length)[index]? = some span.descent := by
    rw [← before.ordinal, Context.descents_open, Context.spans_of_current current,
      List.getElem?_map, lookup]
    rfl
  have grown := Context.descents_run sound (step :: more) journal.reports.length
  rw [← context_run] at grown
  exact after.keeps distinct (depicted journal.reports.length)
    (getElem?_extended (journal.openings_run (step :: more)) opening) number
    (getElem?_extended grown place) calls

def callingRun : List Step :=
  [(⟨1, "unused", "unused"⟩, .create .entry "/order" ""),
    (⟨2, "unused", "unused"⟩, .create .exit "/stock" "stock:80")]

def returningRun : List Step :=
  [(⟨4, "unused", "unused"⟩, .stop (.own ⟨0, 1⟩)), (⟨5, "unused", "unused"⟩, .stop (.own ⟨0, 0⟩)),
    (⟨6, "second", "trace-2"⟩, .create .entry "/order" "")]

theorem callingRun_keeps :
    let config : AgentConfig := { instanceName := "instance" }
    let call : Step := (⟨3, "unused", "unused"⟩, .inject {})
    let handOut : HandOut := ⟨"trace", "first", 1, true⟩
    let journal := (Journal.begin config ⟨0, "first", "trace"⟩).run
      (callingRun ++ call :: returningRun)
    journal.Keeps handOut ∧ journal.openings = ["first", "second"] ∧
      journal.reports.map (·.id) = ["first"] := by
  refine ⟨?_, by decide, by decide⟩
  refine run_keeps_handOut _ _ callingRun _ returningRun rfl rfl ?_
  decide

end Journal

end TraceAgent.Native
