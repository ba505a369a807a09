import TraceAgent.Segment.Parent

/-! Finished spans as they are reported. -/

set_option autoImplicit false

namespace TraceAgent.Segment

open Wire

/-- Receives a call, makes a call, or neither. -/
inductive Role where
  | entry
  | exit
  | inner
  deriving DecidableEq, Repr, Inhabited

def Role.name : Role → String
  | entry => "Entry"
  | exit => "Exit"
  | inner => "Local"

inductive Layer where
  | unknown
  | database
  | remoteCall
  | http
  | messageQueue
  | cache
  | function
  deriving DecidableEq, Repr, Inhabited

def Layer.name : Layer → String
  | unknown => "Unknown"
  | database => "Database"
  | remoteCall => "RPCFramework"
  | http => "Http"
  | messageQueue => "MQ"
  | cache => "Cache"
  | function => "FAAS"

def Layer.all : List Layer := [unknown, database, remoteCall, http, messageQueue, cache, function]

structure Component where
  id : Int
  name : String
  deriving DecidableEq, Repr

def Component.unknown : Component := ⟨0, "Unknown"⟩

def Component.agent : Component := ⟨11000, "Rust"⟩

instance : Inhabited Component := ⟨.unknown⟩

structure LogEntry where
  time : Int
  data : List (String × String)
  deriving DecidableEq, Repr, Inhabited

def pairJson (pair : String × String) : Json :=
  .object [("key", .text pair.1), ("value", .text pair.2)]

def LogEntry.toJson (entry : LogEntry) : Json :=
  .object [("time", .number entry.time), ("data", .list (entry.data.map pairJson))]

structure SpanRecord where
  id : Int
  parentId : Int
  start : Int
  finish : Int
  parents : List Parent := []
  name : String
  peer : String := ""
  role : Role
  layer : Layer := .unknown
  componentId : Int := 0
  isError : Bool := false
  tags : List (String × String) := []
  logs : List LogEntry := []
  skipAnalysis : Bool := false
  deriving DecidableEq, Repr, Inhabited

def SpanRecord.toJson (span : SpanRecord) : Json :=
  .object [("spanId", .number span.id),
    ("parentSpanId", .number span.parentId),
    ("startTime", .number span.start),
    ("endTime", .number span.finish),
    ("refs", .list (span.parents.map Parent.toJson)),
    ("operationName", .text span.name),
    ("peer", .text span.peer),
    ("spanType", .text span.role.name),
    ("spanLayer", .text span.layer.name),
    ("componentId", .number span.componentId),
    ("isError", .flag span.isError),
    ("tags", .list (span.tags.map pairJson)),
    ("logs", .list (span.logs.map LogEntry.toJson)),
    ("skipAnalysis", .flag span.skipAnalysis)]

end TraceAgent.Segment
