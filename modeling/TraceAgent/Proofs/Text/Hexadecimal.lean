import Mathlib.Algebra.Ring.Nat
import TraceAgent.Text.Hexadecimal

/-! Reading a hexadecimal numeral gives back the number that was written. -/

set_option autoImplicit false

namespace TraceAgent.Hexadecimal

theorem value?_digit : ∀ value < 16, value? (digit value) = some value := by decide

theorem digit_plain : ∀ value < 16, digit value ≠ '+' ∧ digit value ≠ '-' := by decide

theorem length_ofNat (width n : Nat) : (ofNat width n).length = width := by
  induction width generalizing n with
  | zero => rfl
  | succ width ih => rw [ofNat, List.length_append, ih, List.length_singleton]

theorem plain_of_mem_ofNat {width n : Nat} {c : Char} (member : c ∈ ofNat width n) :
    c ≠ '+' ∧ c ≠ '-' := by
  induction width generalizing n with
  | zero => cases member
  | succ width ih =>
    rcases List.mem_append.mp member with member | last
    · exact ih member
    · rw [List.mem_singleton.mp last]
      exact digit_plain _ (Nat.mod_lt n (by decide))

theorem foldDigits?_append (acc : Nat) (first second : List Char) :
    foldDigits? acc (first ++ second) =
      (foldDigits? acc first).bind (foldDigits? · second) := by
  induction first generalizing acc with
  | nil => rfl
  | cons c rest ih =>
    rw [List.cons_append, foldDigits?, foldDigits?]
    cases value? c with
    | none => rfl
    | some value => exact ih _

/-- The digits of a number are read behind those that came before. -/
theorem foldDigits?_ofNat (acc width n : Nat) :
    foldDigits? acc (ofNat width n) = some (acc * 16 ^ width + n % 16 ^ width) := by
  induction width generalizing n with
  | zero => simp [ofNat, foldDigits?, Nat.mod_one]
  | succ width ih =>
    have split : n % 16 ^ (width + 1) = n / 16 % 16 ^ width * 16 + n % 16 := by
      rw [Nat.pow_succ', Nat.mod_mul, Nat.mul_comm, Nat.add_comm]
    rw [ofNat, foldDigits?_append, ih, Option.bind_some, foldDigits?,
      value?_digit _ (Nat.mod_lt n (by decide)), Option.bind_some, foldDigits?, split,
      Nat.pow_succ, Nat.add_mul, Nat.mul_assoc, Nat.add_assoc]

theorem toNat?_ofNat (width n : Nat) :
    toNat? (ofNat (width + 1) n) = some (n % 16 ^ (width + 1)) := by
  have length := length_ofNat (width + 1) n
  have plain : ∀ c ∈ ofNat (width + 1) n, c ≠ '+' := fun c member => (plain_of_mem_ofNat member).1
  have read := foldDigits?_ofNat 0 (width + 1) n
  rw [Nat.zero_mul, Nat.zero_add] at read
  cases digits : ofNat (width + 1) n with
  | nil =>
    rw [digits] at length
    cases length
  | cons c rest =>
    rw [digits] at plain read
    have first : c ≠ '+' := plain c List.mem_cons_self
    unfold toNat?
    split
    next same => exact absurd (List.cons.inj same).1 first
    next => exact read

end TraceAgent.Hexadecimal
