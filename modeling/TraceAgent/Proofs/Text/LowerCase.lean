import TraceAgent.Text.LowerCase

/-! Text that is its own lower case. -/

set_option autoImplicit false

namespace TraceAgent.LowerCase

open LetterCase

def plainChar (c : Char) : Bool := c.toNat < 0x80 && (c.toNat < 0x41 || 0x5A < c.toNat)

def isPlain (text : String) : Bool := text.toList.all plainChar

/-- Besides the capital letters of ASCII, the runs of letters lie outside of it. -/
theorem runs_apart :
    ∀ run ∈ upperRuns, (run.first = 0x41 ∧ run.last = 0x5A) ∨ 0x80 ≤ run.first := by
  decide +kernel

theorem lowerChar_of_plainChar {c : Char} (plain : plainChar c) : lowerChar c = [c] := by
  have dotted : c ≠ '\u0130' := by
    rintro rfl
    exact absurd plain (by decide)
  simp only [plainChar, Bool.and_eq_true, Bool.or_eq_true, decide_eq_true_eq] at plain
  have none : upperRuns.find? (·.holds c.toNat) = none := by
    rw [Array.find?_eq_none]
    intro run member holds
    simp only [Run.holds, Bool.and_eq_true, decide_eq_true_eq] at holds
    rcases runs_apart run member with ⟨first, last⟩ | above <;> omega
  unfold lowerChar
  rw [none, if_neg (by simpa using dotted)]

theorem lowerAfter_of_plain {rest : List Char} (plain : rest.all plainChar)
    (before : List Char) : lowerAfter before rest = rest := by
  induction rest generalizing before with
  | nil => rfl
  | cons c rest ih =>
    obtain ⟨first, plain⟩ := Bool.and_eq_true_iff.mp plain
    have sigma : c ≠ 'Σ' := by
      rintro rfl
      exact absurd first (by decide)
    rw [lowerAfter, if_neg (by simpa using sigma), lowerChar_of_plainChar first, ih plain]
    rfl

/-- A text of plain characters is its own lower case. -/
theorem lower_of_isPlain {text : String} (plain : isPlain text) : lower text = text := by
  unfold lower
  rw [lowerAfter_of_plain plain, String.ofList_toList]

end TraceAgent.LowerCase
