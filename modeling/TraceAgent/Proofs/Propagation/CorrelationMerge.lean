import TraceAgent.Proofs.Propagation.CorrelationRun

/-! What offering pairs comes to, and that offering them again comes to nothing more.

No offer takes a key away, so a pair that finds no room does not find any later
either. Of the keys that are there in the end, each has the last value that was
short enough. It does not matter then whether pairs come in one header or in
several, nor whether they come once or again.
-/

set_option autoImplicit false

namespace TraceAgent

def CorrelationLimits.admits (limits : CorrelationLimits) (pair : String × String) : Bool :=
  pair.1 != "" && limits.fits pair

namespace Propagation.Correlation

variable {correlation : Correlation} {key : String} {pair : String × String}
  {pairs : List (String × String)}

theorem accepts_iff_admits :
    correlation.accepts pair.1 pair.2 ↔ correlation.limits.admits pair ∧
      (correlation.pairs.contains pair.1 = false →
        correlation.pairs.size < correlation.limits.elements) := by
  simp [accepts_iff, CorrelationLimits.admits, and_assoc]

theorem get?_eq_none : correlation.get? key = none ↔ ¬ correlation.pairs.contains key := by
  change _ ↔ ¬ (correlation.get? key).isSome
  simp

theorem get?_put (correlation : Correlation) (pair : String × String) (key : String) :
    (correlation.put pair.1 pair.2).get? key =
      if correlation.accepts pair.1 pair.2 ∧ pair.1 = key then some pair.2
      else correlation.get? key := by
  by_cases accepted : correlation.accepts pair.1 pair.2
  · simp [put_of_accepts accepted, accepted, get?]
  · simp [put_of_refuses accepted, accepted]

theorem contains_put (known : correlation.pairs.contains key) (pair : String × String) :
    (correlation.put pair.1 pair.2).pairs.contains key := by
  change ((correlation.put pair.1 pair.2).get? key).isSome
  rw [get?_put]
  split
  · rfl
  · exact known

theorem contains_putAll (known : correlation.pairs.contains key)
    (pairs : List (String × String)) : (correlation.putAll pairs).pairs.contains key := by
  induction pairs generalizing correlation with
  | nil => exact known
  | cons pair rest ih => exact ih (contains_put known pair)

theorem size_le_put (correlation : Correlation) (pair : String × String) :
    correlation.pairs.size ≤ (correlation.put pair.1 pair.2).pairs.size := by
  by_cases accepted : correlation.accepts pair.1 pair.2
  · rw [put_of_accepts accepted]
    change _ ≤ (correlation.pairs.insert pair.1 pair.2).size
    rw [Dictionary.size_insert]
    split <;> omega
  · simp [put_of_refuses accepted]

theorem putAll_append (correlation : Correlation) (pairs more : List (String × String)) :
    correlation.putAll (pairs ++ more) = (correlation.putAll pairs).putAll more :=
  List.foldl_append

/-- A known key is not offered in vain, and an unknown one only to a correlation with room. -/
theorem contains_of_contains_put (named : (correlation.put pair.1 pair.2).pairs.contains key) :
    correlation.pairs.contains key ∨ correlation.accepts pair.1 pair.2 ∧ pair.1 = key := by
  change ((correlation.put pair.1 pair.2).get? key).isSome at named
  rw [get?_put] at named
  split at named
  next accepted => exact .inr accepted
  next => exact .inl named

/-- None of the pairs brings a new key. -/
def Settled (correlation : Correlation) (pairs : List (String × String)) : Prop :=
  ∀ pair ∈ pairs, correlation.accepts pair.1 pair.2 → correlation.pairs.contains pair.1

theorem Settled.put (settled : correlation.Settled pairs) (other : String × String) :
    (correlation.put other.1 other.2).Settled pairs := by
  intro pair listed accepted
  obtain ⟨admitted, room⟩ := accepts_iff_admits.mp accepted
  cases unknown : (correlation.put other.1 other.2).pairs.contains pair.1 with
  | true => rfl
  | false =>
    -- Whoever has room for the key now had room before, and did not know it then either.
    have before : correlation.pairs.contains pair.1 = false := by
      apply Bool.eq_false_iff.mpr
      intro known
      simp [contains_put known other] at unknown
    have free := room unknown
    have fewer := correlation.size_le_put other
    rw [limits_put] at admitted free
    have earlier : correlation.accepts pair.1 pair.2 :=
      accepts_iff_admits.mpr ⟨admitted, fun _ => by omega⟩
    exact absurd (settled pair listed earlier) (Bool.eq_false_iff.mp before)

theorem Settled.putAll (settled : correlation.Settled pairs) (others : List (String × String)) :
    (correlation.putAll others).Settled pairs := by
  induction others generalizing correlation with
  | nil => exact settled
  | cons other rest ih => exact ih (settled.put other)

theorem settled_put (correlation : Correlation) (pair : String × String) :
    (correlation.put pair.1 pair.2).Settled [pair] := by
  intro other listed accepted
  cases List.mem_singleton.mp listed
  by_cases taken : correlation.accepts pair.1 pair.2
  · change ((correlation.put pair.1 pair.2).get? pair.1).isSome
    simp [get?_put, taken]
  · rw [put_of_refuses taken] at accepted
    exact absurd accepted taken

theorem settled_putAll (correlation : Correlation) (pairs : List (String × String)) :
    (correlation.putAll pairs).Settled pairs := by
  induction pairs generalizing correlation with
  | nil => exact fun _ => (nomatch ·)
  | cons pair rest ih =>
    intro other listed
    rcases List.mem_cons.mp listed with same | later
    · subst same
      exact (settled_put correlation other).putAll rest other (List.mem_singleton_self other)
    · exact ih (correlation.put pair.1 pair.2) other later

theorem Settled.contains_putAll (settled : correlation.Settled pairs)
    (known : (correlation.putAll pairs).pairs.contains key) : correlation.pairs.contains key := by
  induction pairs generalizing correlation with
  | nil => exact known
  | cons pair rest ih =>
    have later : (correlation.put pair.1 pair.2).Settled rest := fun other listed =>
      settled.put pair other (List.mem_cons_of_mem pair listed)
    rcases contains_of_contains_put (ih later known) with before | ⟨accepted, rfl⟩
    · exact before
    · exact settled pair List.mem_cons_self accepted

/-- The last value of a key among some pairs that is let in where there is room. -/
def lastAdmitted? (limits : CorrelationLimits) (key : String) :
    List (String × String) → Option String
  | [] => none
  | pair :: rest =>
      (lastAdmitted? limits key rest).or
        (if limits.admits pair ∧ pair.1 = key then some pair.2 else none)

/-- Where no room is left, no key is new. -/
theorem contains_putAll_of_full (full : correlation.limits.elements ≤ correlation.pairs.size)
    (known : (correlation.putAll pairs).pairs.contains key) : correlation.pairs.contains key := by
  apply Settled.contains_putAll (fun pair _ accepted => ?_) known
  obtain ⟨_, room⟩ := accepts_iff_admits.mp accepted
  cases unknown : correlation.pairs.contains pair.1 with
  | true => rfl
  | false => exact absurd (room unknown) (Nat.not_lt.mpr full)

/-- Of the keys that are known in the end, each has the last value that was offered and let in, or
the one from before. -/
theorem get?_putAll (known : (correlation.putAll pairs).pairs.contains key) :
    (correlation.putAll pairs).get? key =
      (lastAdmitted? correlation.limits key pairs).or (correlation.get? key) := by
  induction pairs generalizing correlation with
  | nil => rfl
  | cons pair rest ih =>
    have first : (correlation.put pair.1 pair.2).get? key =
        (if correlation.limits.admits pair ∧ pair.1 = key then some pair.2 else none).or
          (correlation.get? key) := by
      rw [get?_put]
      by_cases accepted : correlation.accepts pair.1 pair.2
      · have admitted := (accepts_iff_admits.mp accepted).1
        by_cases same : pair.1 = key
        · subst same
          simp [accepted, admitted]
        · simp [same]
      · -- A pair of a key that is known in the end is not refused for want of room.
        have refused : ¬ (correlation.limits.admits pair ∧ pair.1 = key) := by
          rintro ⟨admitted, rfl⟩
          apply accepted
          refine accepts_iff_admits.mpr ⟨admitted, fun unknown => ?_⟩
          apply Nat.lt_of_not_le
          intro full
          change ((correlation.put pair.1 pair.2).putAll rest).pairs.contains pair.1 at known
          rw [put_of_refuses accepted] at known
          simp [contains_putAll_of_full full known] at unknown
        simp [accepted, refused]
    have later := ih known
    rw [limits_put, first, ← Option.or_assoc] at later
    exact later

section Merge

variable {before other : Correlation} {value : String}

end Merge

/-- Correlations are told apart by their limits and by what is found in them. -/
theorem ext_get? {other : Correlation} (limits : correlation.limits = other.limits)
    (same : ∀ key, correlation.get? key = other.get? key) : correlation = other := by
  obtain ⟨pairs, _⟩ := correlation
  obtain ⟨others, _⟩ := other
  have equal : pairs = others :=
    Dictionary.pairs_inj.mp (pairs.ordered.ext others.ordered same)
  cases equal
  cases limits
  rfl

/-- Pairs that are offered again change nothing. -/
theorem putAll_putAll (correlation : Correlation) (pairs : List (String × String)) :
    (correlation.putAll pairs).putAll pairs = correlation.putAll pairs := by
  apply ext_get? (limits_putAll _ _)
  intro key
  by_cases known : (correlation.putAll pairs).pairs.contains key
  · rw [get?_putAll (contains_putAll known pairs), limits_putAll, get?_putAll known]
    cases lastAdmitted? correlation.limits key pairs <;> rfl
  · -- The key is unknown before the second offer, and so after it.
    have still : ¬ ((correlation.putAll pairs).putAll pairs).pairs.contains key := fun again =>
      known ((correlation.settled_putAll pairs).contains_putAll again)
    exact (get?_eq_none.mpr still).trans (get?_eq_none.mpr known).symm

def listed (text : Option String) : List (String × String) :=
  (elements text).filterMap readElement?

theorem receive_eq_putAll (correlation : Correlation) (text : Option String) :
    correlation.receive text = correlation.putAll (listed text) := by
  unfold receive listed
  generalize elements text = elements
  induction elements generalizing correlation with
  | nil => rfl
  | cons element rest ih =>
    rw [List.foldl_cons, ih]
    cases read : readElement? element <;> simp [receiveElement, read, putAll]

theorem listed_some (text : String) :
    listed (some text) = (text.toList.splitOn ',').filterMap readElement? := by
  by_cases blank : text = ""
  · subst blank
    rfl
  · unfold listed elements
    split
    next none => cases none
    next none => exact absurd (Option.some.inj none) blank
    next same => rw [Option.some.inj same]

/-- A comma between two headers makes them one that lists the pairs of both. -/
theorem listed_append (first second : String) :
    listed (some (first ++ "," ++ second)) = listed (some first) ++ listed (some second) := by
  simp [listed_some, List.splitOn_append_cons_self]

/-- Merging is a matter of the pairs that are offered, in their order. So two headers can be merged as
one, and neither a header nor the data of a carrier or of a snapshot does anything when it comes
again. Whatever the data and the limits are, no key is lost by any of this. -/
theorem merging_is_idempotent (correlation : Correlation) :
    (∀ first second : String, correlation.receive (some (first ++ "," ++ second)) =
        (correlation.receive (some first)).receive (some second)) ∧
      (∀ text, (correlation.receive text).receive text = correlation.receive text) ∧
      (∀ carrier, (correlation.apply (.extract carrier)).apply (.extract carrier) =
        correlation.apply (.extract carrier)) ∧
      (∀ snapshot, (correlation.apply (.resume snapshot)).apply (.resume snapshot) =
        correlation.apply (.resume snapshot)) ∧
      ∀ key, correlation.pairs.contains key →
        (∀ text, (correlation.receive text).pairs.contains key) ∧
        (∀ carrier, (correlation.apply (.extract carrier)).pairs.contains key) ∧
        ∀ snapshot, (correlation.apply (.resume snapshot)).pairs.contains key := by
  refine ⟨?_, ?_, ?_, ?_, ?_⟩
  · intro first second
    simp only [receive_eq_putAll, listed_append, putAll_append]
  · intro text
    simp only [receive_eq_putAll, putAll_putAll]
  · intro carrier
    exact putAll_putAll correlation carrier.correlation.pairs.pairs
  · intro snapshot
    exact putAll_putAll correlation snapshot.correlation.pairs.pairs
  · intro key known
    refine ⟨fun text => ?_, fun carrier => contains_putAll known _,
      fun snapshot => contains_putAll known _⟩
    rw [receive_eq_putAll]
    exact contains_putAll known _

def oneUser : Correlation where
  pairs := .ofPairs [("user", "vip")]
  limits := { elements := 2, valueBytes := 4 }

/-- The first header brings the key `a`. The second one gives it another value, and for the key `b`
that it lists besides there is no room, neither at once nor when the header comes again. -/
theorem oneUser_merges_once :
    oneUser.receive (some "YQ==:MQ==,YQ==:Mg==,Yg==:MQ==") =
        (oneUser.receive (some "YQ==:MQ==")).receive (some "YQ==:Mg==,Yg==:MQ==") ∧
      ((oneUser.receive (some "YQ==:MQ==,YQ==:Mg==,Yg==:MQ==")).receive
        (some "YQ==:MQ==,YQ==:Mg==,Yg==:MQ==")).pairs.pairs = [("a", "2"), ("user", "vip")] ∧
      oneUser.pairs.contains "user" ∧ (oneUser.receive (some "YQ==:MQ==")).pairs.contains "user" := by
  obtain ⟨sequential, again, _, _, keeps⟩ := merging_is_idempotent oneUser
  have known : oneUser.pairs.contains "user" := by decide
  refine ⟨sequential "YQ==:MQ==" "YQ==:Mg==,Yg==:MQ==", ?_, known, (keeps "user" known).1 _⟩
  rw [again]
  decide +kernel

end Propagation.Correlation

end TraceAgent
