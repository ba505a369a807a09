import TraceAgent.Text.LetterCase

/-! Lower-casing of text, with the full Unicode mapping.

Two rules go beyond a letter for a letter: the dotted capital I becomes an `i`
with a combining dot, and a capital sigma takes its final form at the end of a
word.
-/

set_option autoImplicit false

namespace TraceAgent.LowerCase

open LetterCase

def lowerChar (c : Char) : List Char :=
  if c == '\u0130' then ['i', '\u0307']
  else
    match upperRuns.find? (·.holds c.toNat) with
    | some run => [Char.ofNat (c.toNat + run.shift).toNat]
    | none => [c]

def casedNext (text : List Char) : Bool :=
  match (text.dropWhile isCaseIgnorable).head? with
  | some c => isCased c
  | none => false

/-- A sigma ends a word if a cased letter stands before it and none after it. -/
def sigma (before after : List Char) : Char :=
  if casedNext before && !casedNext after then 'ς' else 'σ'

/-- `before` holds what was already read, nearest character first. -/
def lowerAfter : (before rest : List Char) → List Char
  | _, [] => []
  | before, c :: rest =>
      (if c == 'Σ' then [sigma before rest] else lowerChar c) ++ lowerAfter (c :: before) rest

def lower (text : String) : String := String.ofList (lowerAfter [] text.toList)

def lowerAscii (text : List Char) : List Char := text.map Char.toLower

end TraceAgent.LowerCase
