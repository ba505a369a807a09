import TraceAgent.Proofs.Application.Binding
import TraceAgent.Proofs.Native.Baggage
import TraceAgent.Proofs.Zipkin.State

/-! Correlation data on its way from one process to another.

The caller writes all its pairs to the header. A new carrier of the callee reads
them, but under the limits that every carrier has, not under those that are set
for the agent; so the callee sees what those let through.
-/

set_option autoImplicit false

namespace TraceAgent

open Propagation
open Segment (Role)

def TracingContext.correlation : TracingContext → Correlation
  | .native _ context => context.correlation
  | .zipkin context => context.correlation

namespace Application

variable {app : Application} {thread agent id : Nat}

theorem correlation_of_found {held : TracingContext} (found : app.contexts[id]? = some held) :
    app.correlation id = held.correlation := by
  unfold correlation
  rw [found]
  cases held <;> rfl

theorem correlation_startZipkin (app : Application) (state : Zipkin.State) (role : Role)
    (name peer : String) :
    (app.startZipkin state role name peer).1.context.correlation = state.context.correlation := by
  cases role with
  | entry => exact state.correlation_startSpan _ _ _ _
  | inner => exact state.correlation_startSpan _ _ _ _
  | exit =>
    have started := state.correlation_startSpan app.clock .client name ({ · with isExit := true })
    unfold startZipkin Zipkin.State.startExit
    dsimp only
    split
    next next _ result =>
      rw [result] at started
      rw [Zipkin.State.context_changeSpan]
      exact started
    next next _ result =>
      rw [result] at started
      exact started

theorem correlation_createSpan (app : Application) (thread id : Nat) (role : Role)
    (name peer : String) :
    (app.createSpan thread id role name peer).1.correlation id = app.correlation id := by
  unfold createSpan
  split
  · rfl
  next owner context found =>
    exact (correlation_of_found (getElem?_commit found)).trans (correlation_of_found found).symm
  next context found =>
    obtain ⟨bound, _⟩ := List.getElem?_eq_some_iff.mp found
    have stored : (app.commitZipkin thread id
        (app.startZipkin (app.zipkinState thread context) role name peer).1).contexts[id]? =
          some (.zipkin
            (app.startZipkin (app.zipkinState thread context) role name peer).1.context) := by
      rw [contexts_commitZipkin, List.getElem?_set_self bound]
    rw [correlation_of_found found]
    exact (correlation_of_found stored).trans (app.correlation_startZipkin _ role name peer)

theorem correlation_extract {held : TracingContext} {carrier : Carrier} (thread : Nat)
    (found : app.contexts[id]? = some held) (valid : carrier.isValid) :
    (app.extract thread id carrier).1.correlation id =
      (app.correlation id).merge carrier.correlation := by
  rw [correlation_of_found found]
  obtain ⟨bound, _⟩ := List.getElem?_eq_some_iff.mp found
  cases held with
  | native owner context =>
    rw [extract_native thread carrier found, Native.Context.extract_of_valid valid]
    exact correlation_of_found (getElem?_commit found)
  | zipkin context =>
    have stored : (app.extract thread id carrier).1.contexts[id]? =
        some (.zipkin ((app.zipkinState thread context).extract carrier).1.context) := by
      unfold extract
      rw [found]
      exact List.getElem?_set_self bound
    exact correlation_of_found stored

theorem correlation_obtain {config : AgentConfig} (set : app.configs[agent]? = some config)
    (idle : app.bound thread = none) :
    ∃ held, (app.obtain thread agent).app.contexts[(app.obtain thread agent).id]? = some held ∧
      held.correlation = { limits := config.limits } := by
  unfold configs at set
  rw [List.getElem?_map] at set
  obtain ⟨⟨_, tracer⟩, found, rfl⟩ := Option.map_eq_some_iff.mp set
  unfold obtain
  rw [idle]
  dsimp only
  rw [contexts_bind]
  unfold createContext
  rw [found]
  cases tracer with
  | native ids reporter =>
    dsimp only
    rw [contexts_drawMoment]
    exact ⟨_, List.getElem?_concat_length, rfl⟩
  | zipkin provider encoding => exact ⟨_, List.getElem?_concat_length, rfl⟩

/-- What a carrier of a native context holds after the way to a new carrier of a callee. -/
theorem correlation_inbound {carrier : Carrier} (plain : carrier.bag = none)
    (downstream : Application) (callee : Nat) :
    ((downstream.newCarrier callee).receive
      (Headers.read? (Headers.writeAll .empty carrier.outgoing))).correlation =
        (Correlation.mk .empty {}).merge carrier.correlation := by
  have fresh : (downstream.newCarrier callee).correlation = Correlation.mk .empty {} := by
    unfold newCarrier Carrier.expecting
    split <;> rfl
  rw [Carrier.correlation_receive _ _ (newCarrier_apart (by decide) downstream callee), fresh,
    Carrier.read?_outgoing_correlation plain]
  split
  next blank =>
    -- Without pairs there is no header, and nothing to take over.
    unfold Correlation.merge
    rw [Correlation.write_eq_empty.mp blank]
    rfl
  next => exact Correlation.receive_write _ _

/-- An entry span that continues a valid call finds in its context what an idle thread takes over
from the carrier. -/
theorem boundCorrelation?_enterEntry {config : AgentConfig} {entered : Application} {name : String}
    {inbound : Carrier} {returned : Option Carrier} {entry : SpanRef}
    (set : app.configs[agent]? = some config) (idle : app.bound thread = none)
    (valid : inbound.isValid)
    (enters : app.enterEntry thread agent name (some inbound) = (entered, returned, .ok entry)) :
    entered.boundCorrelation? thread =
      some ((Correlation.mk .empty config.limits).merge inbound.correlation) := by
  obtain ⟨_, creates⟩ := enterEntry_eq_ok.mp enters
  obtain ⟨held, found, blank⟩ := correlation_obtain set idle
  have reached : _ = entered := congrArg Prod.fst creates
  have taken := correlation_extract thread found valid
  rw [correlation_of_found found, blank] at taken
  unfold boundCorrelation?
  rw [← reached, (tends_createSpan _ thread _ .entry (cutName name) "").bound,
    (tends_extract _ thread _ inbound).bound, bound_obtain, Option.map_some,
    correlation_createSpan, taken]

/-- Correlation data arrives as far as a carrier lets it through. Whatever the caller did before,
if one of its contexts prepares a new carrier that leaves valid, and the headers written from the
carrier are read into a new carrier of a callee whose limits are set like those of the caller, then
the entry span that an idle thread of the callee creates with that carrier finds the pairs of the
caller that the limits of a new carrier keep. So all of them are there exactly if there are at most
three and no value is longer than 128 bytes, whatever limits are set. -/
theorem correlation_arrives_iff {upstream : Application} (reachable : upstream.Reachable)
    {sender caller id : Nat} {context : Native.Context} {sent : AgentConfig}
    (set : upstream.configs[caller]? = some sent)
    (found : upstream.contexts[id]? = some (.native caller context)) {carrier : Carrier}
    (prepares : upstream.inject sender id (upstream.newCarrier caller) = .ok carrier)
    (valid : carrier.isValid) (fits : Numeral.InWidth 32 carrier.origin.spanId)
    {downstream entered : Application} {receiver callee : Nat} {received : AgentConfig}
    (alike : downstream.configs[callee]? = some received ∧ received.limits = sent.limits)
    (idle : downstream.bound receiver = none) {name : String} {returned : Option Carrier}
    {entry : SpanRef}
    (enters : downstream.enterEntry receiver callee name
      (some ((downstream.newCarrier callee).receive
        (Headers.read? (Headers.writeAll .empty carrier.outgoing)))) =
          (entered, returned, .ok entry)) :
    ∃ arrived, entered.boundCorrelation? receiver = some arrived ∧
      arrived.limits = sent.limits ∧
      arrived.pairs.pairs =
        CorrelationLimits.kept { elements := 3, valueBytes := 128 } context.correlation.pairs.pairs ∧
      (arrived.pairs = context.correlation.pairs ↔
        context.correlation.pairs.size ≤ 3 ∧
          ∀ pair ∈ context.correlation.pairs.pairs, pair.2.utf8ByteSize ≤ 128) := by
  obtain ⟨calleeSet, sameLimits⟩ := alike
  obtain ⟨config, here, begun⟩ := reachable.begun found
  cases set.symm.trans here
  obtain ⟨limits, bounded⟩ := begun.within
  unfold Application.inject at prepares
  rw [found] at prepares
  obtain ⟨_, _, _, _, _, _, bag, _⟩ := Native.Context.inject_eq_ok prepares
  have plain : carrier.bag = none := bag.trans (bag_newCarrier upstream caller)
  have arrives := Carrier.origin_receive plain valid fits
    (newCarrier_apart (by decide) downstream callee)
  have carried := correlation_inbound plain downstream callee
  rw [Native.Context.correlation_inject prepares] at carried
  generalize (downstream.newCarrier callee).receive
    (Headers.read? (Headers.writeAll .empty carrier.outgoing)) = inbound at enters arrives carried
  have inboundValid : inbound.isValid := by
    unfold Carrier.isValid
    rw [arrives]
    exact valid
  -- The new carrier keeps some of the pairs, and the callee keeps all that the carrier has.
  have through : inbound.correlation.pairs.pairs =
      CorrelationLimits.kept {} context.correlation.pairs.pairs := by
    rw [carried]
    exact Correlation.pairs_merge_of_empty _ bounded.named
  have some := CorrelationLimits.kept_sublist {} context.correlation.pairs.pairs
  have taken : ((Correlation.mk .empty received.limits).merge inbound.correlation).pairs.pairs =
      CorrelationLimits.kept {} context.correlation.pairs.pairs := by
    rw [Correlation.pairs_merge_of_empty, through, CorrelationLimits.kept_eq_self, sameLimits,
      ← limits]
    · exact ⟨Nat.le_trans some.length_le bounded.few,
        fun pair member => bounded.short pair (some.subset member)⟩
    · intro pair member
      rw [through] at member
      exact bounded.named pair (some.subset member)
  refine ⟨_, boundCorrelation?_enterEntry calleeSet idle inboundValid enters, ?_, taken, ?_⟩
  · rw [Correlation.limits_merge]
    exact sameLimits
  · rw [← Dictionary.pairs_inj, taken, CorrelationLimits.kept_eq_self]
    simp only [CorrelationLimits.fits, decide_eq_true_eq]
    rfl

def roomyConfig (name : String) : AgentConfig where
  service := name
  instanceName := "instance"
  limits := { elements := 4 }

def roomyService (name : String) : Application :=
  (begin 0 0).addNative (roomyConfig name) (.counting 1) (.memory [])

def fourPairs : List (String × String) := [("a", "1"), ("b", "2"), ("c", "3"), ("d", "4")]

def ladenSnapshot : Snapshot where
  anchor := some ⟨.begun "trace", "segment", 0, "/origin"⟩
  correlation := (Correlation.mk .empty { elements := 4 }).putAll fourPairs

/-- The process in a call out of a trace that was continued with four pairs. -/
def ladenCall : Application :=
  [Event.perform 0 (.thread 0) (.resume ladenSnapshot),
    .perform 0 (.thread 0) (.create .exit "/call" "peer:80" none)].foldl after
      (roomyService "caller")

def ladenContext : Native.Context :=
  let begun := Native.Context.begin (roomyConfig "caller") ⟨0, "1", "2"⟩
  ((begun.resume ⟨0, "3", "4"⟩ ladenSnapshot).createSpan ⟨0, "3", "4"⟩ .exit "/call" "peer:80").1

def ladenCarrier : Carrier where
  origin := ⟨"trace", "1", 0, "caller", "instance", "/call", "peer:80"⟩
  correlation := ladenSnapshot.correlation
  extension := { sentAt := some 0 }

def ladenInbound : Carrier :=
  ((roomyService "callee").newCarrier 0).receive
    (Headers.read? (Headers.writeAll .empty ladenCarrier.outgoing))

theorem ladenInbound_eq :
    ladenInbound = { ladenCarrier with
      correlation := (Correlation.mk .empty {}).putAll (fourPairs.take 3) } := by
  unfold ladenInbound
  rw [Carrier.receive_writeAll_of_isPlain (by decide +kernel) (by decide +kernel)]
  decide +kernel

def ladenEntry : Application × Option Carrier × Except TraceError SpanRef :=
  (roomyService "callee").enterEntry 0 0 "/serve" (some ladenInbound)

theorem ladenCall_reachable : ladenCall.Reachable :=
  ⟨0, 0, .holding [], [.addNative (roomyConfig "caller") (.counting 1) (.memory []), _, _], rfl⟩

theorem configs_ladenCall : ladenCall.configs[0]? = some (roomyConfig "caller") := rfl

theorem contexts_ladenCall : ladenCall.contexts[0]? = some (.native 0 ladenContext) := rfl

theorem inject_ladenCall : ladenCall.inject 0 0 (ladenCall.newCarrier 0) = .ok ladenCarrier := rfl

theorem ladenEntry_created : ladenEntry.2.2 = .ok (.native 0 ⟨0, 0⟩) := by
  unfold ladenEntry
  rw [ladenInbound_eq]
  decide +kernel

theorem enterEntry_ladenInbound :
    (roomyService "callee").enterEntry 0 0 "/serve" (some ladenInbound) =
      (ladenEntry.1, ladenEntry.2.1, .ok (.native 0 ⟨0, 0⟩)) := by
  rw [← ladenEntry_created]
  rfl

theorem laden_call_arrives :
    ∃ arrived, ladenEntry.1.boundCorrelation? 0 = some arrived ∧
      arrived.limits = (roomyConfig "caller").limits ∧
      arrived.pairs.pairs = CorrelationLimits.kept { elements := 3, valueBytes := 128 }
        ladenContext.correlation.pairs.pairs ∧
      (arrived.pairs = ladenContext.correlation.pairs ↔
        ladenContext.correlation.pairs.size ≤ 3 ∧
          ∀ pair ∈ ladenContext.correlation.pairs.pairs, pair.2.utf8ByteSize ≤ 128) :=
  correlation_arrives_iff ladenCall_reachable configs_ladenCall contexts_ladenCall
    inject_ladenCall (by decide +kernel) (by decide +kernel)
    (show (roomyService "callee").configs[0]? = some (roomyConfig "callee") ∧
      (roomyConfig "callee").limits = (roomyConfig "caller").limits from ⟨rfl, rfl⟩)
    rfl enterEntry_ladenInbound

/-- The limits of both agents let four pairs through, but only three of them arrive. -/
theorem fourth_pair_lost :
    ladenCall.Reachable ∧
      ladenCall.configs.map (·.limits) = (roomyService "callee").configs.map (·.limits) ∧
      ladenCall.inject 0 0 (ladenCall.newCarrier 0) = .ok ladenCarrier ∧ ladenCarrier.isValid ∧
      (roomyService "callee").bound 0 = none ∧ ladenEntry.2.2 = .ok (.native 0 ⟨0, 0⟩) ∧
      (ladenCall.correlation 0).pairs.pairs = fourPairs ∧
      (ladenEntry.1.boundCorrelation? 0).map (·.pairs.pairs) = some (fourPairs.take 3) := by
  have arrived : (ladenEntry.1.boundCorrelation? 0).map (·.pairs.pairs) =
      some (fourPairs.take 3) := by
    unfold ladenEntry
    rw [ladenInbound_eq]
    decide +kernel
  exact ⟨ladenCall_reachable, rfl, rfl, by decide +kernel, rfl, ladenEntry_created,
    by decide +kernel, arrived⟩

end Application

end TraceAgent
