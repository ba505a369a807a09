import TraceAgent.Diagnostic
import TraceAgent.Text.Hexadecimal
import TraceAgent.Text.Numeral

/-! The settings of an agent and how the environment overrides them. -/

set_option autoImplicit false

namespace TraceAgent

/-- How much correlation data a context accepts: pairs, and bytes per value. -/
structure CorrelationLimits where
  elements : Nat := 3
  valueBytes : Nat := 128
  deriving DecidableEq, Repr, Inhabited

abbrev Environment := List (String × List UInt8)

/-- A variable that is not UTF-8 counts as absent. -/
def Environment.text? (environment : Environment) (name : String) : Option String :=
  (environment.lookup name).bind fun bytes => String.fromUTF8? ⟨bytes.toArray⟩

def Environment.name? (environment : Environment) (name : String) : Option String :=
  -- The text without surrounding blanks, and none for blanks alone.
  (environment.text? name).bind fun text =>
    let trimmed := Blank.trim text.toList
    if trimmed.isEmpty then none else some (String.ofList trimmed)

def Environment.count? (environment : Environment) (name : String) : Option Nat :=
  (environment.text? name).bind fun text => Numeral.count? 64 text.toList

structure AgentConfig where
  service : String := "Your_ApplicationName"
  instanceName : String
  backend : Backend := .native
  limits : CorrelationLimits := {}
  deriving DecidableEq, Repr, Inhabited

namespace AgentConfig

def generatedInstance (random : BitVec 64) (process : Nat) : String :=
  String.ofList (Hexadecimal.ofNat 16 random.toNat ++ '@' :: Nat.toDigits 10 process)

def backendSetting (environment : Environment) : Option (Except String Backend) :=
  (environment.text? "SW_AGENT_TRACER").map Backend.ofSetting

/-- The defaults with the overrides of the environment. An override that cannot be read leaves
the default; `generated` names the instance if nothing else does. -/
def ofEnvironment (generated : String) (environment : Environment) : AgentConfig where
  service := (environment.name? "SW_AGENT_NAME").getD "Your_ApplicationName"
  instanceName := (environment.name? "SW_AGENT_INSTANCE_NAME").getD generated
  backend := match backendSetting environment with
    | some (.ok backend) => backend
    | _ => .native
  limits :=
    { elements := (environment.count? "SW_CORRELATION_ELEMENT_MAX_NUMBER").getD 3
      valueBytes := (environment.count? "SW_CORRELATION_VALUE_MAX_LENGTH").getD 128 }

def environmentDiagnostics (environment : Environment) : List Diagnostic :=
  match backendSetting environment with
  | some (.error normalized) => [.unknownBackend normalized]
  | _ => []

end AgentConfig

end TraceAgent
