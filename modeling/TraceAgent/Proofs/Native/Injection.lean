import TraceAgent.Proofs.Native.Capture
import TraceAgent.Proofs.Native.Reuse
import TraceAgent.Proofs.Propagation.RoundTrip

/-! Calls whose carrier was prepared, and says nothing.

A carrier is prepared for an active exit span that has a peer. All else that an
origin names is taken from the settings and the open segment as it is, and an
origin with one empty text is written as no header at all. So a call can go out
without a trace of where it comes from, and nobody is told.
-/

set_option autoImplicit false

namespace TraceAgent

open Propagation Segment

namespace Propagation.Carrier

variable {carrier : Carrier}

/-- A message names where the call comes from, and whoever reads it without knowing anything else
knows just that. -/
def Tells (carrier : Carrier) : Prop :=
  ((Headers.writeAll .empty carrier.outgoing).read? Origin.header).isSome ∧
    ∀ receiver : Carrier, receiver.origin = {} →
      (∀ item ∈ receiver.ownItems, item.1 ≠ Origin.header) →
      (receiver.receive (Headers.writeAll .empty carrier.outgoing).read?).isValid ∧
      (receiver.receive (Headers.writeAll .empty carrier.outgoing).read?).origin = carrier.origin

/-- A message does not name where the call comes from, and whoever reads it knows nothing. -/
def Conceals (carrier : Carrier) : Prop :=
  (Headers.writeAll .empty carrier.outgoing).read? Origin.header = none ∧
    ∀ receiver : Carrier, receiver.origin = {} →
      (∀ item ∈ receiver.ownItems, item.1 ≠ Origin.header) →
      ¬ (receiver.receive (Headers.writeAll .empty carrier.outgoing).read?).isValid

/-- A header of the bag could take the place of that of the origin. Without such a one, a carrier
tells where the call comes from if it is valid, and conceals it otherwise. -/
theorem tells_or_conceals
    (others : ∀ pair ∈ carrier.bagPairs, LowerCase.lower pair.1 ≠ Origin.header)
    (fits : Numeral.InWidth 32 carrier.origin.spanId) :
    (carrier.isValid → carrier.Tells) ∧ (¬ carrier.isValid → carrier.Conceals) := by
  have said := read?_origin others
  have received : ∀ receiver : Carrier, receiver.origin = {} →
      (∀ item ∈ receiver.ownItems, item.1 ≠ Origin.header) →
      (receiver.receive (Headers.writeAll .empty carrier.outgoing).read?).origin =
        if carrier.origin.isValid then carrier.origin else {} := by
    intro receiver blank apart
    rw [origin_receive_eq _ _ apart, blank, said]
    exact Origin.receive_sent fits
  constructor
  · intro valid
    refine ⟨?_, fun receiver blank apart => ?_⟩
    · rw [said, sent_of_ne (Origin.write_ne_empty valid fits)]
      rfl
    · have same := (received receiver blank apart).trans (if_pos valid)
      refine ⟨?_, same⟩
      unfold isValid
      rw [same]
      exact valid
  · intro invalid
    refine ⟨?_, fun receiver blank apart => ?_⟩
    · have blank : carrier.origin.write = "" := if_neg invalid
      rw [said, blank]
      rfl
    · have same := (received receiver blank apart).trans (if_neg invalid)
      unfold isValid
      rw [same]
      decide

end Propagation.Carrier

namespace Native

def OpenSegment.front? (opened : OpenSegment) : Option Span :=
  (foremost opened.spans).bind fun index => opened.spans[index]?

theorem OpenSegment.exists_front {opened : OpenSegment} {index : Nat} {span : Span}
    (fronted : opened.IsFronted) (top : opened.top? = some (index, span)) :
    ∃ front, opened.front? = some front ∧ opened.endpointName = front.name := by
  obtain ⟨_, _, lookup⟩ := top?_eq_some.mp top
  obtain ⟨primary, front, first, here⟩ := exists_foremost lookup
  refine ⟨front, ?_, ?_⟩
  · unfold front?
    rw [first, Option.bind_some, here]
  · unfold endpointName
    rw [fronted, first, Option.bind_some, here]

namespace Context

variable {context : Context} {config : AgentConfig} {moment : Moment} {steps : List Step}
  {now : Int} {fresh carrier : Carrier}

theorem address_of_inject (injects : context.inject now fresh = .ok carrier) :
    carrier.origin.address ≠ "" := by
  unfold inject at injects
  split at injects
  next => cases injects
  next opened _ =>
    split at injects
    next => cases injects
    next index span _ =>
      split at injects
      next => cases injects
      next =>
        split at injects
        next => cases injects
        next peer =>
          cases injects
          exact peer

theorem isFronted_run (config : AgentConfig) (moment : Moment) (steps : List Step) :
    ((Context.begin config moment).run steps).IsFronted := by
  refine IsFronted.run ?_ steps
  rintro _ ⟨⟩
  exact .begin moment

/-- A prepared carrier is valid unless one of the texts is empty that were not looked at. -/
theorem isValid_of_inject (injects : context.inject now fresh = .ok carrier) :
    ∃ opened index span, context.current = some opened ∧ opened.top? = some (index, span) ∧
      (carrier.isValid ↔ context.service ≠ "" ∧ context.instanceName ≠ "" ∧
        opened.endpointName ≠ "" ∧ opened.segment.id ≠ "" ∧ opened.segment.traceId.id ≠ "") := by
  have address := address_of_inject injects
  obtain ⟨opened, index, span, current, top, _, _, origin⟩ := inject_eq_ok injects
  refine ⟨opened, index, span, current, top, ?_⟩
  have spanId : -1 < (index : Int) := by omega
  rw [origin] at address
  unfold Carrier.isValid Origin.isValid
  rw [origin]
  unfold Context.origin at address ⊢
  simp only [Bool.and_eq_true, bne_iff_ne, decide_eq_true_eq]
  tauto

/-- Calls of a context tell where they come from exactly if the settings and the operation names
let them. Whatever was done before, a prepared carrier is valid if and only if the service, its
instance and the span that stands for the segment have names and the generator of ids did not leave
one empty. If it is valid, a receiver of the headers gets a valid carrier with the same origin. If it
is not, then the message has no header for the origin, and the receiver learns nothing. -/
theorem injected_valid_iff
    (injects : ((Context.begin config moment).run steps).inject now fresh = .ok carrier) :
    ∃ opened front, ((Context.begin config moment).run steps).current = some opened ∧
      opened.front? = some front ∧
      (carrier.isValid ↔ config.service ≠ "" ∧ config.instanceName ≠ "" ∧ front.name ≠ "" ∧
        opened.segment.id ≠ "" ∧ opened.segment.traceId.id ≠ "") ∧
      ((∀ drawn ∈ moment :: (Context.begin config moment).drawn steps, drawn.IsNamed) →
        opened.segment.id ≠ "" ∧ opened.segment.traceId.id ≠ "") ∧
      ((∀ pair ∈ fresh.bagPairs, LowerCase.lower pair.1 ≠ Origin.header) →
        Numeral.InWidth 32 carrier.origin.spanId →
        (carrier.isValid → carrier.Tells) ∧ (¬ carrier.isValid → carrier.Conceals)) := by
  obtain ⟨opened, index, span, current, top, valid⟩ := isValid_of_inject injects
  obtain ⟨front, first, endpoint⟩ :=
    OpenSegment.exists_front (isFronted_run config moment steps opened current) top
  obtain ⟨service, instanceName⟩ := names_run (.begin config moment) steps
  refine ⟨opened, front, current, first, ?_, fun named => ?_, fun others fits => ?_⟩
  · rw [valid, service, instanceName, endpoint]
    rfl
  · have ids := (IsNamed.begin config (named moment List.mem_cons_self)).run
      fun drawn later => named drawn (List.mem_cons_of_mem _ later)
    refine ⟨fun empty => ids.segment ?_, ids.trace opened current⟩
    unfold openId?
    rw [current]
    exact congrArg some empty
  · obtain ⟨_, _, _, _, _, _, bag, _⟩ := inject_eq_ok injects
    have same : carrier.bagPairs = fresh.bagPairs := by
      unfold Carrier.bagPairs
      rw [bag]
    exact Carrier.tells_or_conceals (same ▸ others) fits

def calling (endpoint : String) : Context :=
  (Context.begin { service := "order", instanceName := "order-1" } ⟨0, "segment", "trace"⟩).run
    [(⟨1, "unused", "unused"⟩, .create .entry endpoint ""),
      (⟨2, "unused", "unused"⟩, .create .exit "/call" "peer:80")]

def callFrom (endpoint : String) : Carrier := ((calling endpoint).inject 3 {}).toOption.getD {}

theorem inject_calling (endpoint : String) :
    (calling endpoint).inject 3 {} = .ok (callFrom endpoint) := rfl

theorem named_call_tells : (callFrom "/order").isValid ∧ (callFrom "/order").Tells := by
  obtain ⟨_, _, ⟨⟩, ⟨⟩, valid, ids, arrives⟩ := injected_valid_iff (inject_calling "/order")
  have named := valid.mpr ⟨by decide, by decide, by decide, ids (by decide)⟩
  exact ⟨named, (arrives (by decide) (by decide)).1 named⟩

/-- A request to an endpoint without a name is served, and its call conceals where it comes from. -/
theorem unnamed_call_conceals :
    (calling "").inject 3 {} = .ok (callFrom "") ∧ ¬ (callFrom "").isValid ∧
      (callFrom "").Conceals := by
  have invalid : ¬ (callFrom "").isValid := by decide
  exact ⟨rfl, invalid, (Carrier.tells_or_conceals (by decide) (by decide)).2 invalid⟩

end Context

end Native

end TraceAgent
