import TraceAgent.Diagnostic
import TraceAgent.Text.Base64
import TraceAgent.Text.Numeral

/-! Where a call came from, as the `sw8` header names it.

The header has eight fields divided by dashes: a sampling flag, the trace id,
the segment id, the span id, the calling service, its instance, its endpoint
and the address that was called. Texts are base64, the span id is decimal.
-/

set_option autoImplicit false

namespace TraceAgent.Propagation

structure Origin where
  traceId : String := ""
  segmentId : String := ""
  spanId : Int := -1
  service : String := ""
  instanceName : String := ""
  endpoint : String := ""
  address : String := ""
  deriving DecidableEq, Repr, Inhabited

namespace Origin

def header : String := "sw8"

def isValid (origin : Origin) : Bool :=
  -- Every text is there, and the span id is one that a span can have.
  origin.traceId != "" && origin.segmentId != "" && decide (-1 < origin.spanId)
    && origin.service != "" && origin.instanceName != "" && origin.endpoint != ""
    && origin.address != ""

def fields (origin : Origin) : List (List Char) :=
  [['1'], Base64.encodeText origin.traceId, Base64.encodeText origin.segmentId,
    Numeral.ofInt origin.spanId, Base64.encodeText origin.service,
    Base64.encodeText origin.instanceName, Base64.encodeText origin.endpoint,
    Base64.encodeText origin.address]

def write (origin : Origin) : String :=
  -- An origin that is not valid is written as the empty text.
  if origin.isValid then String.ofList (['-'].intercalate origin.fields) else ""

/-- The sampling flag is not looked at: a call that has the header is traced. -/
def ofFields? : List (List Char) → Option Origin
  | [_, traceId, segmentId, spanId, service, instanceName, endpoint, address] => do
      some {
        traceId := ← Base64.decodeText? traceId
        segmentId := ← Base64.decodeText? segmentId
        spanId := ← Numeral.signed? 32 spanId
        service := ← Base64.decodeText? service
        instanceName := ← Base64.decodeText? instanceName
        endpoint := ← Base64.decodeText? endpoint
        address := ← Base64.decodeText? address }
  | _ => none

def read? (text : String) : Option Origin := ofFields? (text.toList.splitOn '-')

/-- Take over what a header says. Without a header, or with one that cannot be read, the
origin stays. -/
def receive (origin : Origin) (text : Option String) : Origin :=
  (text.bind read?).getD origin

def receiveDiagnostics (text : Option String) : List Diagnostic :=
  match text with
  | none => []
  | some text => if (read? text).isSome then [] else [.malformedOrigin text.utf8ByteSize]

end Origin

end TraceAgent.Propagation
