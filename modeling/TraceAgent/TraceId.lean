import TraceAgent.Text.Hexadecimal
import TraceAgent.Text.Numeral

/-! Identifiers of traces and segments, and the generators that make them unique. -/

set_option autoImplicit false

namespace TraceAgent

/-- The id of a trace, and whether this process began the trace or received it. -/
inductive TraceId where
  | begun (id : String)
  | received (id : String)
  deriving DecidableEq, Repr, Inhabited

namespace TraceId

def id : TraceId → String
  | begun id | received id => id

def isReceived : TraceId → Bool
  | begun _ => false
  | received _ => true

end TraceId

structure ThreadSequence where
  ordinal : Nat
  last : Nat
  deriving DecidableEq, Repr

/-- Ids of the form `random.thread.sequence`, shared by all threads of a process. -/
structure RandomIds where
  draws : Nat → BitVec 128
  drawn : Nat := 0
  nextOrdinal : Nat := 1
  threads : List (Nat × ThreadSequence) := []

namespace RandomIds

def period : Nat := 10000

/-- Draws that start at a seed and go up by an odd number, so that they repeat only after all
others. -/
def seeded (seed : BitVec 128) : RandomIds where
  draws n := seed + BitVec.ofNat 128 (n * 0x9E3779B97F4A7C15F39CC0605CEDC835)

def sequence (ids : RandomIds) (thread : Nat) : ThreadSequence :=
  (ids.threads.lookup thread).getD { ordinal := ids.nextOrdinal, last := 0 }

def compose (random : BitVec 128) (ordinal : Nat) (sequence : Int) : String :=
  String.ofList (Hexadecimal.ofNat 32 random.toNat ++ '.' :: Nat.toDigits 10 ordinal
    ++ '.' :: Numeral.ofInt sequence)

def generate (ids : RandomIds) (thread : Nat) (now : Int) : RandomIds × String :=
  let known := (ids.threads.lookup thread).isSome
  let current := ids.sequence thread
  let next := (current.last + 1) % period
  ({ ids with
      drawn := ids.drawn + 1
      nextOrdinal := if known then ids.nextOrdinal else ids.nextOrdinal + 1
      threads := (thread, { current with last := next })
        :: ids.threads.filter (fun entry => entry.1 != thread) },
    compose (ids.draws ids.drawn) current.ordinal (now * period + next))

def generateMany (ids : RandomIds) (thread : Nat) (now : Int) : Nat → RandomIds × List String
  | 0 => (ids, [])
  | count + 1 =>
      let drawn := ids.generate thread now
      let rest := drawn.1.generateMany thread now count
      (rest.1, drawn.2 :: rest.2)

def forget (ids : RandomIds) (thread : Nat) : RandomIds :=
  -- A thread that has ended never draws again.
  { ids with threads := ids.threads.filter (fun entry => entry.1 != thread) }

end RandomIds

end TraceAgent
