import TraceAgent.Proofs.Application.NativeThread

/-! What a thread answers about itself, whatever it was called for before.

A watch counts the spans that the thread created and stopped, and remembers what
was active before each of them. All that the thread answers depends on these
only: a span is active while more were created than stopped, stopping it leads
back to what was active before, and the thread is released with the last one.
-/

set_option autoImplicit false

namespace TraceAgent

open Propagation
open Application (noTraceId topmost)

/-- A thread, and what was counted while it was called. -/
structure Watch where
  app : Application
  /-- The process as it was before it was watched. -/
  first : Application := app
  creates : Nat := 0
  stops : Nat := 0
  /-- What was active before each span that is created and not stopped yet, the last first. -/
  outer : List (Except TraceError SpanRef) := []
  /-- A captured trace was continued since the thread worked in no context. -/
  resumed : Bool := false
  /-- The trace ids that came from elsewhere. -/
  brought : List String := []

namespace Watch

def depth (watch : Watch) : Int := watch.creates - watch.stops

def step (watch : Watch) (thread : Nat) (event : Event) : Watch where
  app := watch.app.after event
  first := watch.first
  creates := watch.creates + (watch.app.creates event).toNat
  stops := watch.stops + (watch.app.stops event).toNat
  outer :=
    if watch.app.creates event then watch.app.activeBound thread :: watch.outer
    else if watch.app.stops event then watch.outer.tail
    else watch.outer
  resumed := (watch.app.after event).isActive thread && (watch.resumed || event.continues)
  brought := event.traceIds ++ watch.brought

def run (watch : Watch) (thread : Nat) (events : List Event) : Watch :=
  events.foldl (·.step thread ·) watch

def StaysTraced (watch : Watch) (thread : Nat) (events : List Event) : Prop :=
  ∀ part, part <+: events → 0 < (watch.run thread part).depth

/-- The thread answers what fits the calls that were watched. -/
structure Orderly (watch : Watch) (managers : List Nat) (thread : Nat) : Prop where
  counted : 0 ≤ watch.depth
  active : (watch.app.activeBound thread).isOk ↔ 0 < watch.depth
  stoppable : (watch.app.stopActive thread).2.isOk ↔ 0 < watch.depth
  traced : 0 < watch.depth → ∃ id owner context, watch.app.bound thread = some id ∧
    watch.app.contexts[id]? = some (.native owner context) ∧
    context.traceId? = some (watch.app.boundTraceId thread)
  named : watch.first.NamesTraces → 0 < watch.depth →
    watch.app.boundTraceId thread = noTraceId → noTraceId ∈ watch.brought
  steady : ∀ events, (∀ event ∈ events, event.isCall managers thread) →
    watch.StaysTraced thread events →
    (watch.run thread events).app.bound thread = watch.app.bound thread
  restored : ∀ event, event.isCall managers thread → watch.app.stops event →
    ∃ before rest, watch.outer = before :: rest ∧
      (watch.app.after event).activeBound thread = before
  emptied : ∀ event, event.isCall managers thread → watch.app.stops event →
    (watch.step thread event).depth = 0 → (watch.app.after event).bound thread = none
  idle : watch.depth = 0 → watch.app.isActive thread → watch.resumed

def Permits (watch : Watch) (traceId : String) : Prop :=
  watch.first.NamesTraces → traceId = noTraceId → noTraceId ∈ watch.brought

/-- What is active below each of some entrances. -/
def outers : List SpanRef → List (Except TraceError SpanRef)
  | [] => []
  | _ :: rest => topmost rest :: outers rest

/-- The watch agrees with the entrances of the thread. -/
structure Tracks (watch : Watch) (managers : List Nat) (thread : Nat) (spans : List SpanRef) :
    Prop where
  nests : watch.app.Nests managers thread watch.Permits spans
  outer : watch.outer = outers spans
  count : watch.creates = watch.stops + spans.length
  idle : spans = [] → watch.app.isActive thread → watch.resumed

variable {watch : Watch} {managers : List Nat} {thread : Nat} {event : Event}
  {spans next : List SpanRef}

namespace Tracks

theorem depth_eq (tracks : watch.Tracks managers thread spans) :
    watch.depth = spans.length := by
  unfold depth
  have count := tracks.count
  omega

theorem traced_iff (tracks : watch.Tracks managers thread spans) :
    0 < watch.depth ↔ spans ≠ [] := by
  rw [tracks.depth_eq, ← List.length_pos_iff]
  omega

theorem resumed_of_stay (tracks : watch.Tracks managers thread spans)
    (bound : (watch.app.after event).bound thread = watch.app.bound thread ∨
      spans = [] ∧ ((watch.app.after event).bound thread = none ∨ event.continues))
    (none : spans = []) (active : (watch.app.after event).isActive thread) :
    watch.resumed || event.continues := by
  rw [Bool.or_eq_true]
  rcases bound with same | ⟨_, released | continues⟩
  · unfold Application.isActive at active
    rw [same] at active
    exact .inl (tracks.idle none active)
  · unfold Application.isActive at active
    rw [released] at active
    cases active
  · exact .inr continues

/-- What a call does to the entrances, it does to the counts. -/
theorem turn (tracks : watch.Tracks managers thread spans)
    (turn : watch.app.Turn thread event spans next)
    (nests : (watch.app.after event).Nests managers thread (watch.step thread event).Permits
      next) : (watch.step thread event).Tracks managers thread next := by
  have count := tracks.count
  have outer := tracks.outer
  cases turn with
  | stay creates stops bound =>
    refine ⟨nests, ?_, ?_, fun none active => ?_⟩
    · simp [step, creates, stops, outer]
    · simp [step, creates, stops, count]
    · exact Bool.and_eq_true_iff.mpr ⟨active, tracks.resumed_of_stay bound none active⟩
  | enter creates stops bound =>
    refine ⟨nests, ?_, ?_, (nomatch ·)⟩
    · simp [step, creates, outer, outers, tracks.nests.activeBound]
    · simp [step, creates, stops, count]
      omega
  | leave creates stops bound =>
    refine ⟨nests, ?_, ?_, fun none active => ?_⟩
    · simp [step, creates, stops, outer, outers]
    · simp [step, creates, stops, count]
      omega
    · have released := bound.trans (if_pos none)
      change ((watch.app.after event).bound thread).isSome at active
      rw [released] at active
      cases active

theorem step (tracks : watch.Tracks managers thread spans) (call : event.isCall managers thread) :
    ∃ next, (watch.step thread event).Tracks managers thread next ∧
      watch.app.Turn thread event spans next := by
  have nests : watch.app.Nests managers thread (watch.step thread event).Permits spans :=
    tracks.nests.mono fun traceId permitted names same =>
      List.mem_append_right _ (permitted names same)
  have brought : ∀ traceId ∈ event.traceIds, (watch.step thread event).Permits traceId := by
    intro traceId came _ same
    exact List.mem_append_left _ (same ▸ came)
  obtain ⟨next, after, turn⟩ := nests.advances call brought
  exact ⟨next, tracks.turn turn after, turn⟩

theorem run (tracks : watch.Tracks managers thread spans) {events : List Event}
    (calls : ∀ event ∈ events, event.isCall managers thread) :
    ∃ next, (watch.run thread events).Tracks managers thread next := by
  induction events generalizing watch spans with
  | nil => exact ⟨spans, tracks⟩
  | cons event rest ih =>
    obtain ⟨next, after, _⟩ := tracks.step (calls event List.mem_cons_self)
    exact ih after fun other among => calls other (List.mem_cons_of_mem _ among)

/-- While a span is active, the thread works in one context. -/
theorem steady (tracks : watch.Tracks managers thread spans) {events : List Event}
    (calls : ∀ event ∈ events, event.isCall managers thread)
    (stays : watch.StaysTraced thread events) :
    (watch.run thread events).app.bound thread = watch.app.bound thread := by
  induction events generalizing watch spans with
  | nil => rfl
  | cons event rest ih =>
    obtain ⟨next, after, turn⟩ := tracks.step (calls event List.mem_cons_self)
    have before : spans ≠ [] := tracks.traced_iff.mp (stays [] List.nil_prefix)
    have behind : next ≠ [] :=
      after.traced_iff.mp (stays [event] ((List.prefix_cons_inj event).mpr List.nil_prefix))
    have same : (watch.app.after event).bound thread = watch.app.bound thread := by
      cases turn with
      | stay creates stops bound => exact bound.resolve_right fun none => before none.1
      | enter creates stops bound => exact bound.resolve_left before
      | leave creates stops bound => exact bound.trans (if_neg behind)
    refine (ih after (fun other among => calls other (List.mem_cons_of_mem _ among)) ?_).trans same
    exact fun part starts => stays (event :: part) ((List.prefix_cons_inj event).mpr starts)

/-- A successful stop leaves the innermost entrance. -/
theorem stop (tracks : watch.Tracks managers thread spans) (call : event.isCall managers thread)
    (stops : watch.app.stops event) :
    ∃ span rest, spans = span :: rest ∧ (watch.step thread event).Tracks managers thread rest ∧
      (watch.app.after event).bound thread =
        if rest = [] then none else watch.app.bound thread := by
  obtain ⟨next, after, turn⟩ := tracks.step call
  cases turn with
  | stay _ refused _ => rw [refused] at stops; cases stops
  | enter _ refused _ => rw [refused] at stops; cases stops
  | leave _ _ bound => exact ⟨_, next, rfl, after, bound⟩

theorem isOk_topmost (spans : List SpanRef) : (topmost spans).isOk ↔ spans ≠ [] := by
  cases spans <;> simp [topmost, Except.isOk, Except.toBool]

theorem stopActive_isOk (tracks : watch.Tracks managers thread spans) :
    (watch.app.stopActive thread).2.isOk ↔ spans ≠ [] := by
  constructor
  · rintro stopped rfl
    have left := tracks.nests.stopActive
    generalize watch.app.stopActive thread = outcome at stopped left
    cases left with
    | refused error => cases stopped
  · intro traced
    obtain ⟨span, rest, rfl⟩ := List.exists_cons_of_ne_nil traced
    obtain ⟨id, runs⟩ := Application.activeBound_eq_ok.mp tracks.nests.activeBound
    rw [runs.stopActive, runs.finishSpan_ok]
    rfl

theorem traceId (tracks : watch.Tracks managers thread spans) (traced : spans ≠ []) :
    ∃ id owner context, watch.app.bound thread = some id ∧
      watch.app.contexts[id]? = some (.native owner context) ∧
      context.traceId? = some (watch.app.boundTraceId thread) ∧
      watch.Permits (watch.app.boundTraceId thread) := by
  cases tracks.nests with
  | free manages bound => exact absurd rfl traced
  | @runs id context runs =>
    obtain ⟨owner, found⟩ := runs.found
    cases current : context.current with
    | none =>
      rw [Native.Context.nest_of_closed current] at traced
      exact absurd rfl traced
    | some opened =>
      have named : context.traceId? = some opened.segment.traceId.id := by
        unfold Native.Context.traceId?
        rw [current]
        rfl
      have answer : watch.app.boundTraceId thread = opened.segment.traceId.id := by
        unfold Application.boundTraceId Application.traceIdText
        rw [runs.bound]
        dsimp only
        rw [found]
        dsimp only
        rw [named]
        rfl
      rw [answer]
      exact ⟨id, owner, context, runs.bound, found, named, runs.trace opened current⟩

theorem orderly (tracks : watch.Tracks managers thread spans) :
    watch.Orderly managers thread where
  counted := by
    rw [tracks.depth_eq]
    omega
  active := by rw [tracks.traced_iff, tracks.nests.activeBound, isOk_topmost]
  stoppable := by rw [tracks.traced_iff, tracks.stopActive_isOk]
  traced := by
    intro deep
    obtain ⟨id, owner, context, bound, found, named, _⟩ :=
      tracks.traceId (tracks.traced_iff.mp deep)
    exact ⟨id, owner, context, bound, found, named⟩
  named := by
    intro names deep
    obtain ⟨_, _, _, _, _, _, permitted⟩ := tracks.traceId (tracks.traced_iff.mp deep)
    exact permitted names
  steady := fun events calls stays => tracks.steady calls stays
  restored := by
    intro event call stops
    obtain ⟨span, rest, rfl, after, _⟩ := tracks.stop call stops
    exact ⟨topmost rest, outers rest, tracks.outer, after.nests.activeBound⟩
  emptied := by
    intro event call stops empty
    obtain ⟨span, rest, rfl, after, bound⟩ := tracks.stop call stops
    rw [after.depth_eq] at empty
    have none : rest = [] := List.eq_nil_of_length_eq_zero (by omega)
    exact bound.trans (if_pos none)
  idle := by
    intro empty
    rw [tracks.depth_eq] at empty
    exact tracks.idle (List.eq_nil_of_length_eq_zero (by omega))

end Tracks

/-- Whatever a thread without context is called for through agents of the native backend, also
when calls fail: it answers as many creates and stops as there were. The trace id that it shows
is that of its open segment, and if no generator of the application gives out the blank one, then
it is not blank unless such a one came from elsewhere. -/
theorem run_orderly {app : Application} (natives : ∀ agent ∈ managers, app.IsNative agent)
    (free : app.bound thread = none) {events : List Event}
    (calls : ∀ event ∈ events, event.isCall managers thread) :
    (run { app } thread events).Orderly managers thread := by
  have begins : Tracks { app } managers thread [] := by
    have draws : app.DrawsAllowed (Permits { app }) :=
      ⟨fun traceId other _ same => absurd same other,
        fun agent description ids reporter found n names same =>
          absurd same (names agent description ids reporter found n)⟩
    refine ⟨.free ⟨natives, draws⟩ free, rfl, rfl, fun _ active => ?_⟩
    change (app.bound thread).isSome at active
    rw [free] at active
    cases active
  obtain ⟨spans, tracks⟩ := begins.run calls
  exact tracks.orderly

def retriedWork : List Event :=
  [.perform 0 (.thread 0) (.create .entry "/order" "" none),
    .perform 0 (.thread 0) (.create .entry "/order" "" none),
    .prepareAsync (.native 0 ⟨0, 0⟩),
    .perform 0 (.thread 0) (.create .exit "/stock" "" (some {})),
    .perform 0 (.thread 0) (.stop none)]

theorem retriedWork_orderly :
    (∀ agent ∈ [0], (Application.service "order").IsNative agent) ∧
      (Application.service "order").bound 0 = none ∧
      (Application.service "order").NamesTraces ∧
      (∀ event ∈ retriedWork, event.isCall [0] 0) ∧
      (run { app := Application.service "order" } 0 retriedWork).depth = 1 ∧
      (run { app := Application.service "order" } 0 retriedWork).Orderly [0] 0 := by
  have natives : ∀ agent ∈ [0], (Application.service "order").IsNative agent := by
    intro agent among
    cases List.mem_singleton.mp among
    exact ⟨_, _, _, rfl⟩
  have calls : ∀ event ∈ retriedWork, event.isCall [0] 0 := by decide
  have names : (Application.service "order").NamesTraces := by
    intro agent description ids reporter found
    cases agent with
    | zero => cases found
    | succ agent => cases found
  exact ⟨natives, rfl, names, calls, by decide +kernel, run_orderly natives rfl calls⟩

def blankCall : Carrier where
  origin :=
    { traceId := noTraceId, segmentId := "segment", spanId := 1, service := "gateway",
      instanceName := "gateway-1", endpoint := "/", address := "order:80" }

/-- A service whose generator gives out nothing but the text that stands for no trace id. -/
def blankService : Application :=
  (Application.begin 0 0).addNative { service := "order", instanceName := "instance" }
    (.custom "blank" fun _ => noTraceId) (.memory [])

/-- A thread that works for a call with a blank trace id shows none, though a span is active. So does
one that works on its own where the generator gives blank ids out. -/
theorem blank_ids_show_no_traceId :
    (blankCall.isValid ∧
      0 < (run { app := Application.service "order" } 0
        [.perform 0 (.thread 0) (.create .entry "/order" "" (some blankCall))]).depth ∧
      (run { app := Application.service "order" } 0
        [.perform 0 (.thread 0) (.create .entry "/order" "" (some blankCall))]).app.boundTraceId 0 =
          noTraceId) ∧
    0 < (run { app := blankService } 0
      [.perform 0 (.thread 0) (.create .inner "work" "" none)]).depth ∧
    (run { app := blankService } 0
      [.perform 0 (.thread 0) (.create .inner "work" "" none)]).app.boundTraceId 0 = noTraceId ∧
    (run { app := blankService } 0
      [.perform 0 (.thread 0) (.create .inner "work" "" none)]).brought = [] := by
  decide +kernel

end Watch

end TraceAgent
