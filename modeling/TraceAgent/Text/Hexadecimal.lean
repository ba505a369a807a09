/-! Hexadecimal numerals of identifiers: lower-case digits, zero padded to a fixed width. -/

set_option autoImplicit false

namespace TraceAgent.Hexadecimal

def digit (value : Nat) : Char :=
  if value < 10 then Char.ofNat (48 + value) else Char.ofNat (87 + value)

def value? (c : Char) : Option Nat :=
  -- Lower-case digits only.
  if '0' ≤ c ∧ c ≤ '9' then some (c.toNat - 48)
  else if 'a' ≤ c ∧ c ≤ 'f' then some (c.toNat - 87)
  else none

def ofNat : (width : Nat) → Nat → List Char
  | 0, _ => []
  | width + 1, n => ofNat width (n / 16) ++ [digit (n % 16)]

def foldDigits? : Nat → List Char → Option Nat
  | acc, [] => some acc
  | acc, c :: rest => (value? c).bind fun d => foldDigits? (acc * 16 + d) rest

/-- A plus sign is read over; at least one digit has to follow. -/
def toNat? (text : List Char) : Option Nat :=
  let digits := match text with
    | '+' :: digits => digits
    | digits => digits
  if digits.isEmpty then none else foldDigits? 0 digits

end TraceAgent.Hexadecimal
