import TraceAgent.Text.Visibility

/-! Quoted text as descriptions of a value show it.

A quote, a backslash and four control characters have short escapes. Any other
character that cannot be shown is written as its code point in braces.
-/

set_option autoImplicit false

namespace TraceAgent.Quoted

def codePoint (c : Char) : List Char := Nat.toDigits 16 c.toNat

def escape (c : Char) : List Char :=
  if c = '\x00' then ['\\', '0']
  else if c = '\t' then ['\\', 't']
  else if c = '\r' then ['\\', 'r']
  else if c = '\n' then ['\\', 'n']
  else if c = '\\' then ['\\', '\\']
  else if c = '"' then ['\\', '"']
  else if Visibility.isVisible c then [c]
  else ['\\', 'u', '\x7b'] ++ codePoint c ++ ['\x7d']

def quote (text : String) : String :=
  String.ofList ('"' :: text.toList.flatMap escape ++ ['"'])

end TraceAgent.Quoted
