import TraceAgent.Propagation.Carrier
import TraceAgent.Propagation.Snapshot
import TraceAgent.Proofs.Propagation.Correlation

/-! A correlation over its whole life.

However pairs come in, they are offered one by one, so no change takes a correlation
past its limits. What keeps to the limits is offered again by its own header and
let through, so the header of a correlation says all that it holds.
-/

set_option autoImplicit false

namespace TraceAgent.Propagation.Correlation

variable {correlation : Correlation}

namespace Bounded

theorem remove (bounded : correlation.Bounded) (key : String) :
    (correlation.remove key).Bounded where
  named pair member := bounded.named pair (mem_of_mem_erasePair member)
  short pair member := bounded.short pair (mem_of_mem_erasePair member)
  few := Nat.le_trans (length_erasePair_le key _) bounded.few

theorem receiveElement (bounded : correlation.Bounded) (element : List Char) :
    (correlation.receiveElement element).Bounded := by
  unfold Correlation.receiveElement
  split
  · exact bounded.put _ _
  · exact bounded

theorem receive (bounded : correlation.Bounded) (text : Option String) :
    (correlation.receive text).Bounded := by
  unfold Correlation.receive
  generalize elements text = listed
  induction listed generalizing correlation with
  | nil => exact bounded
  | cons element rest ih => exact ih (bounded.receiveElement element)

end Bounded

theorem limits_receiveElement (correlation : Correlation) (element : List Char) :
    (correlation.receiveElement element).limits = correlation.limits := by
  unfold receiveElement
  split <;> simp

@[simp] theorem limits_receive (correlation : Correlation) (text : Option String) :
    (correlation.receive text).limits = correlation.limits := by
  unfold receive
  generalize elements text = listed
  induction listed generalizing correlation with
  | nil => rfl
  | cons element rest ih => exact (ih _).trans (correlation.limits_receiveElement element)

inductive Change where
  | put (key value : String)
  | remove (key : String)
  | receive (text : Option String)
  | extract (carrier : Carrier)
  | resume (snapshot : Snapshot)

def apply (correlation : Correlation) : Change → Correlation
  | .put key value => correlation.put key value
  | .remove key => correlation.remove key
  | .receive text => correlation.receive text
  | .extract carrier => correlation.merge carrier.correlation
  | .resume snapshot => correlation.merge snapshot.correlation

def run (correlation : Correlation) (changes : List Change) : Correlation :=
  changes.foldl apply correlation

@[simp] theorem limits_apply (correlation : Correlation) (change : Change) :
    (correlation.apply change).limits = correlation.limits := by
  cases change with
  | put key value => simp [apply]
  | remove key => rfl
  | receive text => simp [apply]
  | extract carrier => simp [apply]
  | resume snapshot => simp [apply]

/-- No change takes a correlation past its limits. -/
theorem Bounded.apply (bounded : correlation.Bounded) (change : Change) :
    (correlation.apply change).Bounded := by
  cases change with
  | put key value => exact bounded.put key value
  | remove key => exact bounded.remove key
  | receive text => exact bounded.receive text
  | extract carrier => exact bounded.merge carrier.correlation
  | resume snapshot => exact bounded.merge snapshot.correlation

theorem limits_run (correlation : Correlation) (changes : List Change) :
    (correlation.run changes).limits = correlation.limits := by
  induction changes generalizing correlation with
  | nil => rfl
  | cons change rest ih => exact (ih _).trans (limits_apply correlation change)

theorem Bounded.run (bounded : correlation.Bounded) (changes : List Change) :
    (correlation.run changes).Bounded := by
  induction changes generalizing correlation with
  | nil => exact bounded
  | cons change rest ih => exact ih (bounded.apply change)

/-- The correlations that are reached under some limits are those that keep to them. -/
theorem reached_iff {limits : CorrelationLimits} :
    (∃ changes, run { limits } changes = correlation) ↔
      correlation.limits = limits ∧ correlation.Bounded := by
  constructor
  · rintro ⟨changes, rfl⟩
    exact ⟨limits_run _ changes, (Bounded.empty limits).run changes⟩
  · rintro ⟨rfl, bounded⟩
    -- Its own header is enough to reach it.
    exact ⟨[.receive (some correlation.write)], bounded.receive_write⟩

/-- Whatever happens to a correlation that starts out empty, it never has more pairs than its limits
allow, nor a longer value, nor an empty key, and whoever reads its header under the same limits has
the same correlation. -/
theorem run_within_limits (limits : CorrelationLimits) (changes : List Change) :
    (run { limits } changes).pairs.size ≤ limits.elements ∧
      (∀ pair ∈ (run { limits } changes).pairs.pairs,
        pair.2.utf8ByteSize ≤ limits.valueBytes ∧ pair.1 ≠ "") ∧
      receive { limits } (some (run { limits } changes).write) = run { limits } changes := by
  obtain ⟨same, bounded⟩ := reached_iff.mp ⟨changes, rfl⟩
  have few := bounded.few
  have short := bounded.short
  have back := bounded.receive_write
  rw [same] at few short back
  exact ⟨few, fun pair member => ⟨of_decide_eq_true (short pair member), bounded.named pair member⟩,
    back⟩

/-- Of what a header lists, one element cannot be read, one value is too long, one key is empty, and
for the last pair there is no room. -/
example : (run { limits := { elements := 2, valueBytes := 4 } }
    [.put "user" "vip", .receive (some "dXNlcg,cmVnaW9u:c291dGg=,:ZXU=,cmVnaW9u:ZXU=,YQ==:MQ==")]
      ).pairs.pairs = [("region", "eu"), ("user", "vip")] := by decide +kernel

end TraceAgent.Propagation.Correlation
