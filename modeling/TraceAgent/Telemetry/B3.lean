import TraceAgent.Telemetry.Propagator

/-! B3 headers: the identity of a span as text, in one header or in several.

The single header is `trace-span`, then a sampling state and the id of the
parent span if they are known. The other form has a header for each part.
-/

set_option autoImplicit false

namespace TraceAgent.Telemetry.B3

def single : String := "b3"
def traceIdHeader : String := "x-b3-traceid"
def spanIdHeader : String := "x-b3-spanid"
def parentIdHeader : String := "x-b3-parentspanid"
def sampledHeader : String := "x-b3-sampled"
def flagsHeader : String := "x-b3-flags"

def headers : List String :=
  [single, traceIdHeader, spanIdHeader, parentIdHeader, sampledHeader, flagsHeader]

inductive Encoding where
  | unspecified
  | multi
  | single
  | both
  deriving DecidableEq, Repr, Inhabited

/-- The single header is written, and its own words for the sampling state are understood. -/
def Encoding.hasSingle : Encoding → Bool
  | single | both => true
  | unspecified | multi => false

def deferredFlag : BitVec 8 := 2
def debugFlag : BitVec 8 := 4

def isDeferred (identity : Identity) : Bool := identity.flags &&& deferredFlag != 0

def isDebug (identity : Identity) : Bool := identity.flags &&& debugFlag != 0

def stateSuffix (identity : Identity) : String :=
  if isDeferred identity then ""
  else if isDebug identity then "-d"
  else if identity.isSampled then "-1"
  else "-0"

def writeSingle (identity : Identity) : List (String × String) :=
  [(single, identity.traceText ++ "-" ++ identity.spanText ++ stateSuffix identity)]

def stateHeaders (identity : Identity) : List (String × String) :=
  if isDebug identity then [(flagsHeader, "1")]
  else if isDeferred identity then []
  else [(sampledHeader, if identity.isSampled then "1" else "0")]

def writeMulti (identity : Identity) : List (String × String) :=
  (traceIdHeader, identity.traceText) :: (spanIdHeader, identity.spanText)
    :: stateHeaders identity

def write (encoding : Encoding) (identity : Identity) : List (String × String) :=
  -- Every encoding writes the separate headers; two of them write the single one as well.
  (if encoding.hasSingle then writeSingle identity else []) ++ writeMulti identity

def readTraceId? (text : List Char) : Option (BitVec 128) :=
  -- A trace id has 16 or 32 digits.
  if text.length = 16 ∨ text.length = 32 then (Hexadecimal.toNat? text).map (BitVec.ofNat 128)
  else none

def readSpanId? (text : List Char) : Option (BitVec 64) :=
  if text.length = 16 then (Hexadecimal.toNat? text).map (BitVec.ofNat 64) else none

def readState? (encoding : Encoding) (text : String) : Option (BitVec 8) :=
  match text with
  | "0" | "false" => some 0
  | "1" => some 1
  | "true" => if encoding.hasSingle then none else some 1
  | "d" => if encoding.hasSingle then some debugFlag else none
  | _ => none

/-- Debugging implies sampling. -/
def readFlags? : String → Option (BitVec 8)
  | "0" => some 0
  | "1" => some 5
  | _ => none

def received? (traceId : BitVec 128) (spanId : BitVec 64) (flags : BitVec 8) : Option Identity :=
  let identity : Identity := ⟨traceId, spanId, flags, true⟩
  if identity.isValid then some identity else none

def parts (text : String) : List (List Char) :=
  -- The parts between dashes, an empty one at the end left out.
  let all := text.toList.splitOn '-'
  if all.getLast? = some [] then all.dropLast else all

def readSingle? (encoding : Encoding) (text : String) : Option Identity :=
  match parts text with
  | [traceId, spanId] => do
      received? (← readTraceId? traceId) (← readSpanId? spanId) deferredFlag
  | [traceId, spanId, state] => do
      received? (← readTraceId? traceId) (← readSpanId? spanId)
        (← readState? encoding (String.ofList state))
  | [traceId, spanId, state, parentId] => do
      let _ ← readSpanId? parentId
      received? (← readTraceId? traceId) (← readSpanId? spanId)
        (← readState? encoding (String.ofList state))
  | _ => none

/-- The debug flag comes before the sampling state. -/
def readStateHeaders? (encoding : Encoding) (read? : String → Option String) :
    Option (BitVec 8) :=
  match (read? flagsHeader).bind readFlags? with
  | some flags => some flags
  | none =>
      match read? sampledHeader with
      | some text => readState? encoding text
      | none => some deferredFlag

def readMulti? (encoding : Encoding) (read? : String → Option String) : Option Identity := do
  received? (← readTraceId? ((read? traceIdHeader).getD "").toList)
    (← readSpanId? ((read? spanIdHeader).getD "").toList)
    (← readStateHeaders? encoding read?)

/-- The single header counts if it can be read, and the separate ones otherwise. -/
def read (encoding : Encoding) (read? : String → Option String) : Option Identity :=
  match readSingle? encoding ((read? single).getD "") with
  | some identity => some identity
  | none => readMulti? encoding read?

def propagator (encoding : Encoding) : Propagator where
  write := write encoding
  read read? := ⟨(read encoding read?).map (⟨·, none⟩)⟩

instance : Coe Encoding Propagator := ⟨propagator⟩

end TraceAgent.Telemetry.B3
