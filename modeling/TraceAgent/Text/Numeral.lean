/-! Decimal numerals: a sign where one is allowed, then at least one ASCII digit.

Reading is bounded by the range of the number it fills. Blanks, separators and
other digits are refused.
-/

set_option autoImplicit false

namespace TraceAgent.Numeral

def natural? (text : List Char) : Option Nat :=
  if text.isEmpty then none
  else if text.all Char.isDigit then some (Nat.ofDigitChars 10 text 0)
  else none

def integer? : List Char → Option Int
  | '-' :: digits => (natural? digits).map fun n => -(n : Int)
  | '+' :: digits => (natural? digits).map fun n => (n : Int)
  | digits => (natural? digits).map fun n => (n : Int)

def wordSize (bits : Nat) : Nat := Nat.pow 2 bits

def InWidth (bits : Nat) (n : Int) : Prop :=
  -(wordSize (bits - 1) : Int) ≤ n ∧ n < (wordSize (bits - 1) : Int)

instance (bits : Nat) (n : Int) : Decidable (InWidth bits n) :=
  inferInstanceAs (Decidable (_ ∧ _))

/-- What a word of this width holds of a number, which need not fit. -/
def wrap (bits : Nat) (n : Int) : Int := n.bmod (wordSize bits)

def signed? (bits : Nat) (text : List Char) : Option Int :=
  (integer? text).filter (InWidth bits ·)

/-- A count has no minus sign, and a plus sign is read over. -/
def count? (bits : Nat) (text : List Char) : Option Nat :=
  let digits := match text with
    | '+' :: digits => digits
    | digits => digits
  (natural? digits).filter (· < wordSize bits)

def ofInt : Int → List Char
  | .ofNat n => Nat.toDigits 10 n
  | .negSucc n => '-' :: Nat.toDigits 10 (n + 1)

def text (n : Int) : String := String.ofList (ofInt n)

end TraceAgent.Numeral
