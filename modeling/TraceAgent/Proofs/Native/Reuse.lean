import TraceAgent.Proofs.Native.Accounting
import TraceAgent.Proofs.Native.Baggage
import TraceAgent.Proofs.Native.Recasting

/-! A native context that is used again after a report.

It opens another segment, and goes on with the correlation data and the flags
that the trace before left in it. A context that begins with these goes on in
the same way; one that begins without them does so only if none were left.
-/

set_option autoImplicit false

namespace TraceAgent.Native

open Propagation Segment

variable (ids : Renaming) (earlier : Nat)

/-- What a step of a context shows: its result and its report, and what the context answers when
it is asked afterwards. -/
structure Sight where
  result : Except TraceError Output
  report : Option Segment
  correlation : Correlation
  active : Except TraceError SpanKey
  traceId? : Option String

def Effect.sight (effect : Effect) : Sight where
  result := effect.result
  report := effect.report
  correlation := effect.context.correlation
  active := effect.context.activeSpan
  traceId? := effect.context.traceId?

def Sight.recast (sight : Sight) : Sight where
  result := sight.result.map (·.recast ids earlier)
  report := sight.report.map (·.rename ids)
  correlation := sight.correlation
  active := sight.active.map (·.after earlier)
  traceId? := sight.traceId?.map ids.trace

def Step.recast (step : Step) : Step := (step.1.rename ids, step.2.recast ids earlier)

theorem Effect.sight_recast (before : List (List Span)) (effect : Effect) :
    (effect.recast ids before).sight = effect.sight.recast ids before.length := by
  have active := effect.context.activeSpan_recast ids before
  have traceId := effect.context.traceId?_recast ids before
  unfold sight Sight.recast
  rw [← active, ← traceId]
  rfl

namespace Context

def course (context : Context) : List Step → List Sight
  | [] => []
  | step :: rest =>
      let effect := context.perform step.1 step.2
      effect.sight :: effect.context.course rest

theorem course_cons (context : Context) (step : Step) (rest : List Step) :
    context.course (step :: rest) = (context.perform step.1 step.2).sight ::
      (context.perform step.1 step.2).context.course rest := rfl

/-- A run shows the same behind other segments and under other ids. -/
theorem course_recast (before : List (List Span)) (context : Context) (steps : List Step) :
    (context.recast ids before).course (steps.map (·.recast ids before.length)) =
      (context.course steps).map (·.recast ids before.length) := by
  induction steps generalizing context with
  | nil => rfl
  | cons step rest ih =>
    have effect := context.perform_recast ids before step.1 step.2
    rw [List.map_cons, course_cons, course_cons, List.map_cons]
    unfold Step.recast
    dsimp only
    rw [effect, Effect.sight_recast]
    exact congrArg (_ :: ·) (ih (context.perform step.1 step.2).context)

def carrying (context : Context) (correlation : Correlation) (extension : Extension) : Context :=
  { context with correlation, extension }

/-- From its next span on, a context shows what a new one shows, under other ids and with the
spans counted from its next segment. -/
def Resembles (context : Context) (new : Moment → Context) : Prop :=
  ∀ (ids : Renaming) (moment : Moment) (role : Role) (name peer : String) (rest : List Step),
    let steps : List Step := (moment, .create role name peer) :: rest
    context.course (steps.map (·.recast ids context.past.length)) =
      ((new moment).course steps).map (·.recast ids context.past.length)

variable {context after : Context} {config : AgentConfig} {moment : Moment}

theorem Change.names {paired : Bool} {report : Option Segment}
    (change : Change context moment paired after report) :
    after.service = context.service ∧ after.instanceName = context.instanceName := by
  rcases change.lasting with lasting | ⟨_, _, _, _, rfl⟩
  · exact ⟨lasting.service, lasting.instanceName⟩
  · exact ⟨rfl, rfl⟩

theorem names_run (context : Context) (steps : List Step) :
    (context.run steps).service = context.service ∧
      (context.run steps).instanceName = context.instanceName := by
  induction steps generalizing context with
  | nil => exact ⟨rfl, rfl⟩
  | cons step rest ih =>
    obtain ⟨service, instanceName⟩ := ih (context.perform step.1 step.2).context
    obtain ⟨first, second⟩ := Change.names (context.perform_change step.1 step.2)
    exact ⟨service.trans first, instanceName.trans second⟩

/-- A context without an open segment that waits for nothing. -/
structure Vacant (context : Context) (config : AgentConfig) : Prop where
  service : context.service = config.service
  instanceName : context.instanceName = config.instanceName
  current : context.current = none
  outstanding : context.outstanding = 0

theorem BegunBy.vacant {report : Segment} {operation : Operation} (begun : context.BegunBy config)
    (handed : (context.perform moment operation).report = some report) :
    (context.perform moment operation).context.Vacant config := by
  have change := context.perform_change moment operation
  rw [handed] at change
  obtain ⟨start, steps, rfl⟩ := begun
  obtain ⟨service, instanceName⟩ := names_run (.begin config start) steps
  obtain ⟨first, second⟩ := change.names
  obtain ⟨before, same, settled⟩ := change.settles
  obtain ⟨_, _, _, _, rest⟩ := settle_eq_some settled
  refine ⟨first.trans service, second.trans instanceName, ?_, change.done.2⟩
  rw [same, rest]

/-- The next span of such a context opens the segment with which a new one begins. -/
theorem Vacant.perform_create (vacant : context.Vacant config) (moment : Moment) (role : Role)
    (name peer : String) :
    context.perform (moment.rename ids) (.create role name peer) =
      (((Context.begin config moment).carrying context.correlation context.extension).perform moment
        (.create role name peer)).recast ids context.past := by
  -- Behind the segments, a new context differs only in that its segment is open already; the first
  -- span opens it here.
  have past : context.past ++ ([] : List (List Span)) = context.past := List.append_nil _
  rw [← perform_recast]
  obtain ⟨service, instanceName, current, outstanding⟩ := vacant
  cases context
  cases service
  cases instanceName
  cases current
  cases outstanding
  unfold recast carrying Context.begin
  dsimp only
  rw [List.map_nil, past]
  rfl

/-- A vacant context goes on like a new one that has what it carries. -/
theorem Vacant.resembles (vacant : context.Vacant config) :
    context.Resembles fun moment =>
      (Context.begin config moment).carrying context.correlation context.extension := by
  intro ids moment role name peer rest
  have first := vacant.perform_create ids moment role name peer
  dsimp only
  rw [List.map_cons, course_cons, course_cons, List.map_cons]
  unfold Step.recast Operation.recast
  dsimp only
  rw [first, Effect.sight_recast]
  exact congrArg (_ :: ·) (course_recast ids context.past _ rest)

/-- It goes on like any new one only if it carries nothing: the next capture tells. -/
theorem Vacant.resembles_begin (vacant : context.Vacant config) :
    context.Resembles (Context.begin config) ↔
      context.correlation = { limits := config.limits } ∧ context.extension = {} := by
  have resembles := vacant.resembles
  constructor
  · intro bare
    let moment : Moment := ⟨0, "", ""⟩
    have same := (resembles .same moment .inner "" "" [(moment, .capture)]).symm.trans
      (bare .same moment .inner "" "" [(moment, .capture)])
    -- Any span will do: its capture has all that the context carries.
    obtain ⟨_, captured⟩ := List.cons.inj same
    have snapshots := Output.snapshot.inj (Except.ok.inj
      (congrArg Sight.result (List.cons.inj captured).1))
    exact ⟨congrArg Snapshot.correlation snapshots, congrArg Snapshot.extension snapshots⟩
  · rintro ⟨correlation, extension⟩
    rw [correlation, extension] at resembles
    exact resembles

/-- Once it has reported a segment, a native context goes on like one that begins with the
correlation data and the flags that it had before the report. It goes on like a new one only if it
had none. -/
theorem reused_resembles {segment : Segment} {operation : Operation}
    (begun : context.BegunBy config)
    (handed : (context.perform moment operation).report = some segment) :
    let reused := (context.perform moment operation).context
    (reused.Resembles fun start =>
      (Context.begin config start).carrying context.correlation context.extension) ∧
    (reused.Resembles (Context.begin config) ↔
      context.correlation = { limits := config.limits } ∧ context.extension = {}) := by
  have vacant := begun.vacant handed
  have change := context.perform_change moment operation
  rw [handed] at change
  have lasting : Lasting context (context.perform moment operation).context := by
    rcases change.lasting with lasting | ⟨none, _⟩
    · exact lasting
    · cases none
  have resembles := vacant.resembles
  have only := vacant.resembles_begin
  rw [lasting.correlation, lasting.extension] at resembles only
  exact ⟨resembles, only⟩

def userCall : Carrier where
  origin :=
    { traceId := "trace-a", segmentId := "segment-a", spanId := 0, service := "caller",
      instanceName := "instance", endpoint := "/call", address := "127.0.0.1:80" }
  correlation := ({} : Correlation).put "user" "vip"

def provider : AgentConfig := { instanceName := "instance" }

def serving : Context :=
  (Context.begin provider ⟨0, "first", "trace"⟩).run
    [(⟨1, "unused", "unused"⟩, .extract userCall),
      (⟨1, "unused", "unused"⟩, .create .entry "/work" "")]

def served : Effect := serving.perform ⟨2, "unused", "unused"⟩ (.stop (.own ⟨0, 0⟩))

theorem served_reused :
    served.report.isSome ∧
      served.context.Resembles fun start =>
        (Context.begin provider start).carrying serving.correlation serving.extension := by
  have begun : serving.BegunBy provider := ⟨_, _, rfl⟩
  obtain ⟨segment, handed⟩ := Option.isSome_iff_exists.mp (show served.report.isSome from rfl)
  exact ⟨rfl, (reused_resembles begun handed).1⟩

/-- The user is still there when the context is used again. -/
theorem user_outlives_call :
    served.report.isSome ∧
      let next : Step := (⟨3, "second", "other"⟩, .create .entry "/next" "")
      (served.context.run [next]).correlation.get? "user" = some "vip" ∧
        ((Context.begin provider next.1).run [next]).correlation.get? "user" = none ∧
        ¬ served.context.Resembles (Context.begin provider) := by
  refine ⟨by decide, by decide, by decide, fun resembles => ?_⟩
  have same := congrArg (·.map (·.correlation.get? "user"))
    (resembles .same ⟨3, "second", "other"⟩ .entry "/next" "" [])
  revert same
  decide

end Context

end TraceAgent.Native
