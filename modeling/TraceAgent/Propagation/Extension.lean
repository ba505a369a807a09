import TraceAgent.Diagnostic
import TraceAgent.Text.Numeral

/-! Flags that travel with a call: whether its analysis is skipped, and when it was sent.

The `sw8-extension` header is a flag, a dash, and a decimal time in
milliseconds or nothing.
-/

set_option autoImplicit false

namespace TraceAgent.Propagation

structure Extension where
  skipAnalysis : Bool := false
  sentAt : Option Int := none
  deriving DecidableEq, Repr, Inhabited

namespace Extension

def header : String := "sw8-extension"

def latencyTag : String := "transmission.latency"

def write (extension : Extension) : String :=
  String.ofList ((if extension.skipAnalysis then '1' else '0') :: '-'
    :: (extension.sentAt.map Numeral.ofInt).getD [])

def readFlag? : List Char → Option Bool
  | ['1'] => some true
  | ['0'] | [] => some false
  | _ => none

/-- No time at all is readable, and what follows the time is not looked at. -/
def readTime? : List (List Char) → Option (Option Int)
  | [] | [] :: _ => some none
  | time :: _ => (Numeral.signed? 64 time).map some

def read? (text : String) : Option Extension :=
  match text.toList.splitOn '-' with
  | [] => none
  | flag :: rest => do some { skipAnalysis := ← readFlag? flag, sentAt := ← readTime? rest }

/-- The empty text says nothing. -/
def stated (text : Option String) : Option String := text.filter (· != "")

def receive (extension : Extension) (text : Option String) : Extension :=
  ((stated text).bind read?).getD extension

def receiveDiagnostics (text : Option String) : List Diagnostic :=
  match stated text with
  | none => []
  | some text => if (read? text).isSome then [] else [.malformedExtension text.utf8ByteSize]

def sentNow (extension : Extension) (now : Int) : Extension :=
  { extension with sentAt := some now }

/-- How long the call was on its way; a call from the future has no latency. A difference that is
too long for a word wraps around, unless the program is built to stop there. -/
def latency? (extension : Extension) (now : Int) : Option Int :=
  (extension.sentAt.map fun sent => Numeral.wrap 64 (now - sent)).filter (0 ≤ ·)

end Extension

end TraceAgent.Propagation
