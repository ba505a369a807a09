import TraceAgent.Propagation.Correlation
import TraceAgent.Proofs.Dictionary
import TraceAgent.Proofs.Text.Base64

/-! What limits let through, and what a correlation header carries.

Pairs that are offered to an empty context are kept in order as long as there is
room for them. A header lists all pairs of a context, so whoever reads it is
offered exactly those.
-/

set_option autoImplicit false

namespace TraceAgent

namespace CorrelationLimits

def fits (limits : CorrelationLimits) (pair : String × String) : Bool :=
  pair.2.utf8ByteSize ≤ limits.valueBytes

/-- What is left of some pairs under limits: the first that fit, as many as there is room for. -/
def kept (limits : CorrelationLimits) (pairs : List (String × String)) : List (String × String) :=
  (pairs.filter limits.fits).take limits.elements

theorem kept_sublist (limits : CorrelationLimits) (pairs : List (String × String)) :
    (limits.kept pairs).Sublist pairs :=
  (List.take_sublist _ _).trans List.filter_sublist

theorem kept_eq_self {limits : CorrelationLimits} {pairs : List (String × String)} :
    limits.kept pairs = pairs ↔
      pairs.length ≤ limits.elements ∧ ∀ pair ∈ pairs, limits.fits pair := by
  constructor
  · intro whole
    have few := List.length_take_le limits.elements (pairs.filter limits.fits)
    rw [← whole]
    refine ⟨few, fun pair member => ?_⟩
    exact (List.mem_filter.mp (List.mem_of_mem_take member)).2
  · rintro ⟨few, fits⟩
    unfold kept
    rw [List.filter_eq_self.mpr fits, List.take_of_length_le few]

end CorrelationLimits

namespace Propagation

namespace Correlation

variable {correlation other : Correlation} {key value : String}

@[simp] theorem limits_put (correlation : Correlation) (key value : String) :
    (correlation.put key value).limits = correlation.limits := by
  unfold put
  split <;> rfl

@[simp] theorem limits_putAll (correlation : Correlation) (pairs : List (String × String)) :
    (correlation.putAll pairs).limits = correlation.limits := by
  induction pairs generalizing correlation with
  | nil => rfl
  | cons pair rest ih => exact (ih (correlation.put pair.1 pair.2)).trans (limits_put _ _ _)

@[simp] theorem limits_merge (correlation other : Correlation) :
    (correlation.merge other).limits = correlation.limits := limits_putAll correlation _

theorem accepts_iff :
    correlation.accepts key value ↔ key ≠ "" ∧ correlation.limits.fits (key, value) ∧
      (correlation.pairs.contains key = false →
        correlation.pairs.size < correlation.limits.elements) := by
  have short : correlation.limits.fits (key, value) ↔
      ¬ correlation.limits.valueBytes < value.utf8ByteSize := by
    unfold CorrelationLimits.fits
    rw [decide_eq_true_iff, Nat.not_lt]
  rw [short]
  unfold accepts judge
  rw [beq_iff_eq]
  split
  next blank => exact ⟨(nomatch ·), fun accepted => absurd blank accepted.1⟩
  next named =>
    split
    next long => exact ⟨(nomatch ·), fun accepted => absurd long accepted.2.1⟩
    next short =>
      split
      next full =>
        simp only [Bool.and_eq_true, Bool.not_eq_true', decide_eq_true_eq] at full
        exact ⟨(nomatch ·), fun accepted => absurd (accepted.2.2 full.1) (Nat.not_lt.mpr full.2)⟩
      next room =>
        simp only [Bool.and_eq_true, Bool.not_eq_true', decide_eq_true_eq, not_and,
          Nat.not_le] at room
        exact ⟨fun _ => ⟨named, short, room⟩, fun _ => rfl⟩

theorem put_of_accepts (accepted : correlation.accepts key value) :
    correlation.put key value =
      { correlation with pairs := correlation.pairs.insert key value } := if_pos accepted

theorem put_of_refuses (refused : ¬ correlation.accepts key value) :
    correlation.put key value = correlation := if_neg refused

theorem put_of_get? (found : correlation.get? key = some value) :
    correlation.put key value = correlation := by
  unfold put
  split
  · rw [Dictionary.insert_of_get? found]
  · rfl

theorem putAll_of_get? {pairs : List (String × String)}
    (found : ∀ pair ∈ pairs, correlation.get? pair.1 = some pair.2) :
    correlation.putAll pairs = correlation := by
  induction pairs with
  | nil => rfl
  | cons pair rest ih =>
    change (correlation.put pair.1 pair.2).putAll rest = correlation
    rw [put_of_get? (found pair List.mem_cons_self)]
    exact ih fun later member => found later (List.mem_cons_of_mem _ member)

theorem merge_self (correlation : Correlation) : correlation.merge correlation = correlation :=
  putAll_of_get? fun _ member => lookup_of_mem correlation.pairs.ordered member

/-- What holds of the pairs of a context that has put them in one by one: each has a key and a
short value, and they are not too many. -/
structure Bounded (correlation : Correlation) : Prop where
  named : ∀ pair ∈ correlation.pairs.pairs, pair.1 ≠ ""
  short : ∀ pair ∈ correlation.pairs.pairs, correlation.limits.fits pair
  few : correlation.pairs.size ≤ correlation.limits.elements

namespace Bounded

theorem empty (limits : CorrelationLimits) : Bounded { limits } where
  named := fun _ => (nomatch ·)
  short := fun _ => (nomatch ·)
  few := Nat.zero_le _

theorem put (bounded : correlation.Bounded) (key value : String) :
    (correlation.put key value).Bounded := by
  by_cases accepted : correlation.accepts key value
  · obtain ⟨named, fits, room⟩ := accepts_iff.mp accepted
    rw [put_of_accepts accepted]
    constructor
    · intro pair member
      rcases mem_of_mem_insertPair member with rfl | member
      · exact named
      · exact bounded.named pair member
    · intro pair member
      rcases mem_of_mem_insertPair member with rfl | member
      · exact fits
      · exact bounded.short pair member
    · change (correlation.pairs.insert key value).size ≤ correlation.limits.elements
      rw [Dictionary.size_insert]
      split
      · exact bounded.few
      next new => exact room (Bool.eq_false_iff.mpr new)
  · rw [put_of_refuses accepted]
    exact bounded

theorem putAll (bounded : correlation.Bounded) (pairs : List (String × String)) :
    (correlation.putAll pairs).Bounded := by
  induction pairs generalizing correlation with
  | nil => exact bounded
  | cons pair rest ih => exact ih (bounded.put pair.1 pair.2)

theorem merge (bounded : correlation.Bounded) (other : Correlation) :
    (correlation.merge other).Bounded := bounded.putAll _

end Bounded

/-- Pairs that are offered in key order, behind all that is there, are put in as long as there is
room; those that do not fit are passed over. -/
theorem pairs_putAll {pairs : List (String × String)} (correlation : Correlation)
    (ordered : Ordered pairs) (named : ∀ pair ∈ pairs, pair.1 ≠ "")
    (behind : ∀ old ∈ correlation.pairs.pairs, ∀ pair ∈ pairs, old.1 < pair.1) :
    (correlation.putAll pairs).pairs.pairs = correlation.pairs.pairs ++
      (pairs.filter correlation.limits.fits).take
        (correlation.limits.elements - correlation.pairs.size) := by
  induction pairs generalizing correlation with
  | nil => simp [putAll]
  | cons pair rest ih =>
    obtain ⟨key, value⟩ := pair
    obtain ⟨least, ordered⟩ := List.pairwise_cons.mp ordered
    have namedRest := fun pair member => named pair (List.mem_cons_of_mem _ member)
    have beforeKey := fun old member => behind old member (key, value) List.mem_cons_self
    have beforeRest := fun old member other later =>
      behind old member other (List.mem_cons_of_mem _ later)
    have absent : correlation.pairs.contains key = false := Dictionary.contains_eq_false.mpr
      fun old member same => String.lt_irrefl key (same ▸ beforeKey old member)
    change ((correlation.put key value).putAll rest).pairs.pairs = _
    by_cases fits : correlation.limits.fits (key, value)
    · rw [List.filter_cons_of_pos fits]
      by_cases room : correlation.pairs.size < correlation.limits.elements
      · -- The pair is put last, and the rest goes behind it.
        have accepted : correlation.accepts key value :=
          accepts_iff.mpr ⟨named _ List.mem_cons_self, fits, fun _ => room⟩
        have grown : (correlation.pairs.insert key value).pairs =
            correlation.pairs.pairs ++ [(key, value)] := insertPair_of_behind beforeKey
        have size : (correlation.pairs.insert key value).size = correlation.pairs.size + 1 := by
          rw [Dictionary.size_insert, absent]
          rfl
        have left : correlation.limits.elements - correlation.pairs.size =
            correlation.limits.elements - (correlation.pairs.size + 1) + 1 := by omega
        rw [put_of_accepts accepted, ih _ ordered namedRest]
        · rw [grown, size, left, List.take_succ_cons, List.append_assoc]
          rfl
        · intro old member other later
          rw [grown] at member
          rcases List.mem_append.mp member with member | member
          · exact beforeRest old member other later
          · rw [List.mem_singleton.mp member]
            exact least other later
      · -- Without room nothing more is put in.
        have refused : ¬ correlation.accepts key value := fun accepted =>
          room ((accepts_iff.mp accepted).2.2 absent)
        have full : correlation.limits.elements - correlation.pairs.size = 0 := by omega
        rw [put_of_refuses refused, ih _ ordered namedRest beforeRest, full, List.take_zero,
          List.take_zero]
    · have refused : ¬ correlation.accepts key value := fun accepted =>
        fits (accepts_iff.mp accepted).2.1
      rw [List.filter_cons_of_neg fits, put_of_refuses refused,
        ih _ ordered namedRest beforeRest]

/-- An empty context keeps of another one what its limits let through. -/
theorem pairs_merge_of_empty (limits : CorrelationLimits)
    (named : ∀ pair ∈ other.pairs.pairs, pair.1 ≠ "") :
    ((Correlation.mk .empty limits).merge other).pairs.pairs = limits.kept other.pairs.pairs := by
  have offered := pairs_putAll (.mk .empty limits) other.pairs.ordered named fun _ => (nomatch ·)
  exact offered

theorem divider_not_mem_writeElement (pair : String × String) : ',' ∉ writeElement pair := by
  unfold writeElement
  rw [List.mem_append, List.mem_cons, not_or, not_or]
  exact ⟨Base64.divider_not_mem_encode (by decide) _, by decide,
    Base64.divider_not_mem_encode (by decide) _⟩

theorem readElement?_writeElement (pair : String × String) :
    readElement? (writeElement pair) = some pair := by
  have parts : ([':'].intercalate [Base64.encodeText pair.1, Base64.encodeText pair.2]).splitOn ':'
      = [Base64.encodeText pair.1, Base64.encodeText pair.2] := by
    refine List.splitOn_intercalate ':' (fun part member => ?_) (List.cons_ne_nil _ _)
    rcases List.mem_cons.mp member with rfl | member
    · exact Base64.divider_not_mem_encode (by decide) _
    · rw [List.mem_singleton.mp member]
      exact Base64.divider_not_mem_encode (by decide) _
  have written : writeElement pair =
      [':'].intercalate [Base64.encodeText pair.1, Base64.encodeText pair.2] := by
    simp [writeElement, List.intercalate]
  unfold readElement?
  rw [written, parts]
  dsimp only
  rw [Base64.decodeText?_encodeText, Base64.decodeText?_encodeText]
  rfl

theorem write_eq_empty : correlation.write = "" ↔ correlation.pairs.pairs = [] := by
  unfold write
  constructor
  · intro blank
    cases pairs : correlation.pairs.pairs with
    | nil => rfl
    | cons pair rest =>
      rw [pairs] at blank
      have blank := congrArg String.toList blank
      rw [String.toList_ofList] at blank
      cases rest <;> simp [List.intercalate, writeElement] at blank
  · intro none
    rw [none]
    rfl

theorem elements_write (correlation : Correlation) :
    elements (some correlation.write) = correlation.pairs.pairs.map writeElement := by
  by_cases blank : correlation.write = ""
  · rw [blank, write_eq_empty.mp blank]
    rfl
  · have some : elements (some correlation.write) = correlation.write.toList.splitOn ',' := by
      unfold elements
      split
      next none => cases none
      next none => exact absurd (Option.some.inj none) blank
      next text _ same => rw [← Option.some.inj same]
    have pairs : correlation.pairs.pairs.map writeElement ≠ [] := by
      rw [Ne, List.map_eq_nil_iff]
      exact fun none => blank (write_eq_empty.mpr none)
    rw [some]
    unfold write
    rw [String.toList_ofList]
    refine List.splitOn_intercalate ',' (fun element member => ?_) pairs
    obtain ⟨pair, _, rfl⟩ := List.mem_map.mp member
    exact divider_not_mem_writeElement pair

/-- Reading a header offers all the pairs that were written. -/
theorem receive_write (reader writer : Correlation) :
    reader.receive (some writer.write) = reader.merge writer := by
  unfold receive merge putAll
  rw [elements_write, List.foldl_map]
  congr 1
  funext correlation pair
  unfold receiveElement
  rw [readElement?_writeElement]

/-- A correlation within its limits is read back from its header. -/
theorem Bounded.receive_write (bounded : correlation.Bounded) :
    Correlation.receive { limits := correlation.limits } (some correlation.write) =
      correlation := by
  have kept : correlation.limits.kept correlation.pairs.pairs = correlation.pairs.pairs :=
    CorrelationLimits.kept_eq_self.mpr ⟨bounded.few, bounded.short⟩
  have offered := pairs_merge_of_empty correlation.limits bounded.named
  rw [kept, Dictionary.pairs_inj] at offered
  have limits := limits_merge { limits := correlation.limits } correlation
  rw [Correlation.receive_write]
  cases correlation
  simp only at offered limits
  rw [Correlation.mk.injEq]
  exact ⟨offered, limits⟩

end Correlation

end Propagation

end TraceAgent
