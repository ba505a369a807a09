import TraceAgent.Config
import TraceAgent.Dictionary
import TraceAgent.Text.Base64

/-! Data that the application sends along with a trace, within limits.

The `sw8-correlation` header lists the pairs in key order, divided by commas;
key and value are base64 with a colon between them.
-/

set_option autoImplicit false

namespace TraceAgent.Propagation

structure Correlation where
  pairs : Dictionary String := .empty
  limits : CorrelationLimits := {}
  deriving DecidableEq, Repr, Inhabited

namespace Correlation

def header : String := "sw8-correlation"

inductive Verdict where
  | accepted
  | emptyKey
  | valueTooLong
  | tooManyElements
  deriving DecidableEq, Repr

/-- A known key may always take a new value that fits; a new key needs room. -/
def judge (correlation : Correlation) (key value : String) : Verdict :=
  if key = "" then .emptyKey
  else if correlation.limits.valueBytes < value.utf8ByteSize then .valueTooLong
  else if !correlation.pairs.contains key
      && correlation.limits.elements ≤ correlation.pairs.size then .tooManyElements
  else .accepted

def accepts (correlation : Correlation) (key value : String) : Bool :=
  correlation.judge key value == .accepted

def put (correlation : Correlation) (key value : String) : Correlation :=
  -- A pair that is not accepted changes nothing.
  if correlation.accepts key value then
    { correlation with pairs := correlation.pairs.insert key value }
  else correlation

def putDiagnostics (correlation : Correlation) (key value : String) : List Diagnostic :=
  match correlation.judge key value with
  | .valueTooLong => [.valueTooLong key value.utf8ByteSize]
  | .tooManyElements => [.tooManyElements key correlation.limits.elements]
  | .accepted | .emptyKey => []

def get? (correlation : Correlation) (key : String) : Option String := correlation.pairs.get? key

def remove (correlation : Correlation) (key : String) : Correlation :=
  { correlation with pairs := correlation.pairs.erase key }

def putAll (correlation : Correlation) (pairs : List (String × String)) : Correlation :=
  pairs.foldl (fun correlation pair => correlation.put pair.1 pair.2) correlation

def putAllDiagnostics (correlation : Correlation) : List (String × String) → List Diagnostic
  | [] => []
  | (key, value) :: rest =>
      correlation.putDiagnostics key value
        ++ (correlation.put key value).putAllDiagnostics rest

def merge (correlation other : Correlation) : Correlation :=
  correlation.putAll other.pairs.pairs

def mergeDiagnostics (correlation other : Correlation) : List Diagnostic :=
  correlation.putAllDiagnostics other.pairs.pairs

def writeElement (pair : String × String) : List Char :=
  Base64.encodeText pair.1 ++ ':' :: Base64.encodeText pair.2

def write (correlation : Correlation) : String :=
  String.ofList ([','].intercalate (correlation.pairs.pairs.map writeElement))

/-- Only the first colon divides: base64 has none. -/
def readElement? (element : List Char) : Option (String × String) :=
  match element.splitOn ':' with
  | [key, value] => do some (← Base64.decodeText? key, ← Base64.decodeText? value)
  | _ => none

def receiveElement (correlation : Correlation) (element : List Char) : Correlation :=
  match readElement? element with
  | some (key, value) => correlation.put key value
  | none => correlation

def elementDiagnostics (correlation : Correlation) (element : List Char) : List Diagnostic :=
  match readElement? element with
  | some (key, value) => correlation.putDiagnostics key value
  | none => [.malformedElement (String.ofList element).utf8ByteSize]

def elements (text : Option String) : List (List Char) :=
  -- The elements of a header. The empty text has none.
  match text with
  | none | some "" => []
  | some text => text.toList.splitOn ','

def receive (correlation : Correlation) (text : Option String) : Correlation :=
  -- Offer what a header lists; elements that cannot be read are passed over.
  (elements text).foldl receiveElement correlation

def elementsDiagnostics (correlation : Correlation) : List (List Char) → List Diagnostic
  | [] => []
  | element :: rest =>
      correlation.elementDiagnostics element
        ++ (correlation.receiveElement element).elementsDiagnostics rest

def receiveDiagnostics (correlation : Correlation) (text : Option String) : List Diagnostic :=
  correlation.elementsDiagnostics (elements text)

end Correlation

end TraceAgent.Propagation
