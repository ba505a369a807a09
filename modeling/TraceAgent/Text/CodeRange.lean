/-! Inclusive ranges of code points, as tables of character properties list them. -/

set_option autoImplicit false

namespace TraceAgent

structure CodeRange where
  first : Nat
  last : Nat
  deriving DecidableEq, Repr

def CodeRange.holds (range : CodeRange) (c : Char) : Bool :=
  range.first ≤ c.toNat && c.toNat ≤ range.last

def CodeRange.within (ranges : Array CodeRange) (c : Char) : Bool := ranges.any (·.holds c)

end TraceAgent
