import TraceAgent.Dictionary
import TraceAgent.Text.LowerCase

/-! Message headers whose names are told apart without regard to case.

Names are stored and asked for in lower case. A header that was put in under
another spelling is not found.
-/

set_option autoImplicit false

namespace TraceAgent.Propagation

abbrev Headers := Dictionary String

namespace Headers

def write (headers : Headers) (name value : String) : Headers :=
  headers.insert (LowerCase.lower name) value

def writeAll (headers : Headers) (pairs : List (String × String)) : Headers :=
  pairs.foldl (fun headers pair => write headers pair.1 pair.2) headers

def read? (headers : Headers) (name : String) : Option String :=
  headers.get? (LowerCase.lower name)

end Headers

end TraceAgent.Propagation
