import TraceAgent.Propagation.Correlation
import TraceAgent.Propagation.Extension
import TraceAgent.Propagation.Origin

/-! What crosses a process boundary with one call.

A carrier holds the three parts that have headers of their own, and a bag for
headers that only a particular backend understands.
-/

set_option autoImplicit false

namespace TraceAgent.Propagation

structure Carrier where
  origin : Origin := {}
  correlation : Correlation := {}
  extension : Extension := {}
  expected : Option (List String) := none
  bag : Option (Dictionary String) := none
  deriving DecidableEq, Inhabited

namespace Carrier

def expecting (names : List String) : Carrier :=
  if names.isEmpty then {} else { expected := some names }

def isValid (carrier : Carrier) : Bool := carrier.origin.isValid

def bagPairs (carrier : Carrier) : List (String × String) :=
  match carrier.bag with
  | some bag => bag.pairs
  | none => []

/-- Once there is a bag its pairs count, before that the names that are expected. -/
def ownItems (carrier : Carrier) : List (String × String) :=
  match carrier.bag with
  | some bag => bag.pairs
  | none => (carrier.expected.getD []).map fun name => (name, "")

def items (carrier : Carrier) : List (String × String) :=
  (Origin.header, carrier.origin.write)
    :: (Correlation.header, carrier.correlation.write)
    :: (Extension.header, carrier.extension.write)
    :: carrier.ownItems

def outgoing (carrier : Carrier) : List (String × String) :=
  carrier.items.filter fun item => item.2 != ""

def store (carrier : Carrier) (name value : String) : Carrier :=
  { carrier with bag := some ((carrier.bag.getD .empty).insert name value) }

def storeAll (carrier : Carrier) (pairs : List (String × String)) : Carrier :=
  pairs.foldl (fun carrier pair => carrier.store pair.1 pair.2) carrier

def stored? (carrier : Carrier) (name : String) : Option String :=
  carrier.bag.bind fun bag => bag.get? name

def receiveItem (carrier : Carrier) (name value : String) : Carrier :=
  -- Hand a received header to the part that has its name, and to the bag otherwise.
  if name = Origin.header then
    { carrier with origin := carrier.origin.receive (some value) }
  else if name = Correlation.header then
    { carrier with correlation := carrier.correlation.receive (some value) }
  else if name = Extension.header then
    { carrier with extension := carrier.extension.receive (some value) }
  else carrier.store name value

def itemDiagnostics (carrier : Carrier) (name value : String) : List Diagnostic :=
  if name = Origin.header then Origin.receiveDiagnostics (some value)
  else if name = Correlation.header then
    carrier.correlation.receiveDiagnostics (some value)
  else if name = Extension.header then Extension.receiveDiagnostics (some value)
  else []

/-- The headers that are there among those the carrier asks for, in the order of its items. -/
def asked (carrier : Carrier) (read? : String → Option String) : List (String × String) :=
  carrier.items.filterMap fun item => (read? item.1).map fun value => (item.1, value)

def receiveAll (carrier : Carrier) (headers : List (String × String)) : Carrier :=
  headers.foldl (fun carrier header => carrier.receiveItem header.1 header.2) carrier

def receiveAllDiagnostics (carrier : Carrier) : List (String × String) → List Diagnostic
  | [] => []
  | (name, value) :: rest =>
      carrier.itemDiagnostics name value
        ++ (carrier.receiveItem name value).receiveAllDiagnostics rest

def receive (carrier : Carrier) (read? : String → Option String) : Carrier :=
  carrier.receiveAll (carrier.asked read?)

def receiveDiagnostics (carrier : Carrier) (read? : String → Option String) : List Diagnostic :=
  carrier.receiveAllDiagnostics (carrier.asked read?)

end Carrier

end TraceAgent.Propagation
