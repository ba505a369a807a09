import TraceAgent.Text.Numeral

/-! Reading a numeral gives back the number that was written.

A number has more than one numeral, but those without a sign and without leading
zeros are the ones that are written.
-/

set_option autoImplicit false

namespace TraceAgent.Numeral

theorem isDigit_of_mem_toDigits {n : Nat} {c : Char} (member : c ∈ Nat.toDigits 10 n) :
    c.isDigit := Nat.isDigit_of_mem_toDigits (by decide) (by decide) member

theorem natural?_toDigits (n : Nat) : natural? (Nat.toDigits 10 n) = some n := by
  have digits : (Nat.toDigits 10 n).all Char.isDigit :=
    List.all_eq_true.mpr fun _ member => isDigit_of_mem_toDigits member
  have nonempty : (Nat.toDigits 10 n).isEmpty = false :=
    List.isEmpty_eq_false_iff.mpr Nat.toDigits_ne_nil
  simp [natural?, nonempty, digits, Nat.ofDigitChars_ten_toDigits]

theorem sign_not_mem_toDigits (n : Nat) : '-' ∉ Nat.toDigits 10 n ∧ '+' ∉ Nat.toDigits 10 n :=
  ⟨fun member => absurd (isDigit_of_mem_toDigits member) (by decide),
    fun member => absurd (isDigit_of_mem_toDigits member) (by decide)⟩

theorem integer?_of_unsigned {digits : List Char} (minus : '-' ∉ digits) (plus : '+' ∉ digits) :
    integer? digits = (natural? digits).map fun n => (n : Int) := by
  unfold integer?
  split
  · exact absurd List.mem_cons_self minus
  · exact absurd List.mem_cons_self plus
  · rfl

theorem integer?_ofInt (n : Int) : integer? (ofInt n) = some n := by
  cases n with
  | ofNat n =>
    obtain ⟨minus, plus⟩ := sign_not_mem_toDigits n
    rw [ofInt, integer?_of_unsigned minus plus, natural?_toDigits]
    rfl
  | negSucc n =>
    rw [ofInt, integer?, natural?_toDigits]
    rfl

theorem signed?_ofInt {bits : Nat} {n : Int} (fits : InWidth bits n) :
    signed? bits (ofInt n) = some n := by
  rw [signed?, integer?_ofInt]
  exact if_pos (decide_eq_true fits)

theorem wrap_of_inWidth {bits : Nat} {n : Int} (fits : InWidth (bits + 1) n) :
    wrap (bits + 1) n = n := by
  have double : wordSize (bits + 1) = wordSize bits * 2 := Nat.pow_succ ..
  obtain ⟨least, greatest⟩ := fits
  rw [Nat.add_sub_cancel] at least greatest
  unfold wrap
  rw [double]
  exact Int.bmod_eq_of_le_mul_two (by omega) (by omega)

theorem dash_not_mem_ofInt {n : Int} (natural : 0 ≤ n) : '-' ∉ ofInt n := by
  obtain ⟨count, rfl⟩ := Int.eq_ofNat_of_zero_le natural
  exact (sign_not_mem_toDigits count).1

theorem natural?_eq_some {digits : List Char} {n : Nat} :
    natural? digits = some n ↔
      digits ≠ [] ∧ (∀ c ∈ digits, c.isDigit) ∧ Nat.ofDigitChars 10 digits 0 = n := by
  unfold natural?
  cases digits with
  | nil => simp
  | cons c rest => simp

theorem toDigits_of_isDigit {c : Char} (numeric : c.isDigit) :
    c.toNat - '0'.toNat < 10 ∧ Nat.toDigits 10 (c.toNat - '0'.toNat) = [c] := by
  obtain ⟨low, high⟩ := Char.isDigit_iff_toNat.mp numeric
  simp only [Char.reduceToNat] at low high ⊢
  have small : c.toNat - 48 < 10 := by omega
  refine ⟨small, ?_⟩
  have same : (Nat.digitChar (c.toNat - 48)).toNat = c.toNat := by
    rw [Nat.toNat_digitChar_of_lt_ten small]
    omega
  rw [Nat.toDigits_of_lt_base small, Char.toNat_inj.mp same]

/-- Digits behind a number are the last ones of the numeral that they make together. -/
theorem toDigits_ofDigitChars {digits : List Char} {n : Nat} (positive : 0 < n)
    (numeric : ∀ c ∈ digits, c.isDigit) :
    Nat.toDigits 10 (Nat.ofDigitChars 10 digits n) = Nat.toDigits 10 n ++ digits := by
  induction digits generalizing n with
  | nil => simp
  | cons c rest ih =>
    obtain ⟨small, own⟩ := toDigits_of_isDigit (numeric c List.mem_cons_self)
    have later : ∀ other ∈ rest, other.isDigit := fun other member =>
      numeric other (List.mem_cons_of_mem _ member)
    rw [Nat.ofDigitChars_cons, ih (by omega) later,
      ← Nat.toDigits_append_toDigits (by decide) positive small, own]
    simp

def trimmed : List Char → List Char
  | [] => ['0']
  | c :: rest => if c = '0' then trimmed rest else c :: rest

/-- A numeral without its plus sign and its leading zeros. -/
def bare : List Char → List Char
  | '+' :: digits => trimmed digits
  | digits => trimmed digits

theorem toDigits_eq_trimmed {digits : List Char} (numeric : ∀ c ∈ digits, c.isDigit) :
    Nat.toDigits 10 (Nat.ofDigitChars 10 digits 0) = trimmed digits := by
  induction digits with
  | nil => rfl
  | cons c rest ih =>
    have later : ∀ other ∈ rest, other.isDigit := fun other member =>
      numeric other (List.mem_cons_of_mem _ member)
    rw [Nat.ofDigitChars_cons, Nat.mul_zero, Nat.zero_add, trimmed]
    split
    next zero =>
      rw [zero]
      exact ih later
    next other =>
      obtain ⟨small, own⟩ := toDigits_of_isDigit (numeric c List.mem_cons_self)
      have positive : 0 < c.toNat - '0'.toNat := by
        apply Nat.pos_of_ne_zero
        intro none
        rw [none] at own
        exact other (List.cons.inj own).1.symm
      rw [toDigits_ofDigitChars positive later, own]
      rfl

/-- A numeral without a minus sign is read as a number that is not negative, and that is written
without a sign and without leading zeros. -/
theorem ofInt_of_signed? {bits : Nat} {numeral : List Char} {n : Int} (undashed : '-' ∉ numeral)
    (reads : signed? bits numeral = some n) : 0 ≤ n ∧ ofInt n = bare numeral := by
  have plain : ∀ {digits : List Char}, (natural? digits).map (fun n => (n : Int)) = some n →
      0 ≤ n ∧ ofInt n = trimmed digits := by
    intro digits counts
    obtain ⟨count, natural, same⟩ : ∃ count, natural? digits = some count ∧ (count : Int) = n := by
      cases found : natural? digits with
      | none => simp [found] at counts
      | some count => exact ⟨count, rfl, by simpa [found] using counts⟩
    obtain ⟨_, numeric, rfl⟩ := natural?_eq_some.mp natural
    rw [← same]
    exact ⟨Int.natCast_nonneg _, toDigits_eq_trimmed numeric⟩
  have number := (Option.filter_eq_some_iff.mp reads).1
  unfold integer? at number
  unfold bare
  split at number
  next => exact absurd List.mem_cons_self undashed
  next => exact plain number
  next digits _ unsigned =>
    split
    next => exact (unsigned _ rfl).elim
    next => exact plain number

end TraceAgent.Numeral
