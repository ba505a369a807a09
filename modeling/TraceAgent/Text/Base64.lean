/-! Base64 with the standard alphabet and mandatory padding.

Three bytes are written as four digits. A last group of one or two bytes is
filled up with `=`, and the bits that the group does not use are zero. Reading
refuses everything else, so a byte string has exactly one written form.
-/

set_option autoImplicit false

namespace TraceAgent.Base64

def digit (value : Nat) : Char :=
  if value < 26 then Char.ofNat (65 + value)
  else if value < 52 then Char.ofNat (71 + value)
  else if value < 62 then Char.ofNat (value - 4)
  else if value = 62 then '+'
  else '/'

def value? (c : Char) : Option Nat :=
  if 'A' ≤ c ∧ c ≤ 'Z' then some (c.toNat - 65)
  else if 'a' ≤ c ∧ c ≤ 'z' then some (c.toNat - 71)
  else if '0' ≤ c ∧ c ≤ '9' then some (c.toNat + 4)
  else if c = '+' then some 62
  else if c = '/' then some 63
  else none

def encode : List UInt8 → List Char
  | [] => []
  | [a] =>
      [digit (a.toNat / 4), digit (a.toNat % 4 * 16), '=', '=']
  | [a, b] =>
      [digit (a.toNat / 4), digit (a.toNat % 4 * 16 + b.toNat / 16),
        digit (b.toNat % 16 * 4), '=']
  | a :: b :: c :: rest =>
      digit (a.toNat / 4) :: digit (a.toNat % 4 * 16 + b.toNat / 16)
        :: digit (b.toNat % 16 * 4 + c.toNat / 64) :: digit (c.toNat % 64) :: encode rest

def byteOfTwo? (p q : Char) : Option (List UInt8) := do
  let p ← value? p
  let q ← value? q
  if q % 16 = 0 then some [UInt8.ofNat (p * 4 + q / 16)] else none

def bytesOfThree? (p q r : Char) : Option (List UInt8) := do
  let p ← value? p
  let q ← value? q
  let r ← value? r
  if r % 4 = 0 then some [UInt8.ofNat (p * 4 + q / 16), UInt8.ofNat (q % 16 * 16 + r / 4)]
  else none

def bytesOfFour? (p q r s : Char) : Option (List UInt8) := do
  let p ← value? p
  let q ← value? q
  let r ← value? r
  let s ← value? s
  some [UInt8.ofNat (p * 4 + q / 16), UInt8.ofNat (q % 16 * 16 + r / 4),
    UInt8.ofNat (r % 4 * 64 + s)]

/-- Only the last group may be padded. -/
def decode? : List Char → Option (List UInt8)
  | [] => some []
  | p :: q :: r :: s :: rest =>
      if s = '=' then
        if rest.isEmpty then
          if r = '=' then byteOfTwo? p q else bytesOfThree? p q r
        else none
      else do
        let head ← bytesOfFour? p q r s
        let tail ← decode? rest
        some (head ++ tail)
  | _ => none

def encodeText (text : String) : List Char := encode text.toUTF8.data.toList

def decodeText? (written : List Char) : Option String :=
  (decode? written).bind fun bytes => String.fromUTF8? ⟨bytes.toArray⟩

end TraceAgent.Base64
