import TraceAgent.Text.Blank
import TraceAgent.Text.LowerCase

/-! The tracer backends an agent can run on.

The native backend builds segments of its own. The Zipkin backend runs on a
telemetry tracer and exchanges B3 headers.
-/

set_option autoImplicit false

namespace TraceAgent

inductive Backend where
  | native
  | zipkin
  deriving DecidableEq, Repr, Inhabited

namespace Backend

def name : Backend → String
  | native => "native"
  | zipkin => "zipkin"

def label : Backend → String
  | native => "Native"
  | zipkin => "Zipkin"

/-- A setting is read without surrounding blanks, and ASCII letters count alike in either case. -/
def normalize (setting : String) : String :=
  String.ofList (LowerCase.lowerAscii (Blank.trim setting.toList))

def ofSetting (setting : String) : Except String Backend :=
  -- Reading a setting fails with the normalized text.
  match normalize setting with
  | "native" | "skywalking" => .ok native
  | "zipkin" => .ok zipkin
  | other => .error other

def unknownMessage (normalized : String) : String :=
  "unknown tracer backend '" ++ normalized ++ "'"

end Backend

end TraceAgent
