import TraceAgent.Text.Hexadecimal
import TraceAgent.Text.Numeral

/-! The JSON values that reported segments are made of, and their compact text.

Fields keep the order in which they are listed. No blank stands between tokens,
and only quotes, backslashes and control characters are escaped.
-/

set_option autoImplicit false

namespace TraceAgent.Wire

inductive Json where
  | text (value : String)
  | number (value : Int)
  | flag (value : Bool)
  | list (items : List Json)
  | object (fields : List (String × Json))
  deriving Repr, Inhabited

namespace Json

def escape (c : Char) : List Char :=
  if c = '"' then ['\\', '"']
  else if c = '\\' then ['\\', '\\']
  else if c = '\x08' then ['\\', 'b']
  else if c = '\x0c' then ['\\', 'f']
  else if c = '\n' then ['\\', 'n']
  else if c = '\r' then ['\\', 'r']
  else if c = '\t' then ['\\', 't']
  else if c.toNat < 32 then '\\' :: 'u' :: Hexadecimal.ofNat 4 c.toNat
  else [c]

def quoted (text : String) : List Char :=
  '"' :: text.toList.flatMap escape ++ ['"']

mutual

def write : Json → List Char
  | text value => quoted value
  | number value => Numeral.ofInt value
  | flag true => ['t', 'r', 'u', 'e']
  | flag false => ['f', 'a', 'l', 's', 'e']
  | list [] => ['[', ']']
  | list (first :: rest) => '[' :: (write first ++ writeItems rest)
  | object [] => ['\x7b', '\x7d']
  | object ((name, first) :: rest) =>
      '\x7b' :: (quoted name ++ ':' :: (write first ++ writeFields rest))

def writeItems : List Json → List Char
  | [] => [']']
  | item :: rest => ',' :: (write item ++ writeItems rest)

def writeFields : List (String × Json) → List Char
  | [] => ['\x7d']
  | (name, value) :: rest => ',' :: (quoted name ++ ':' :: (write value ++ writeFields rest))

end

def render (json : Json) : String := String.ofList json.write

end Json

end TraceAgent.Wire
