/-! # Literal typing

A `Send` statement reads some characters as modifiers and keys. Escaping a value writes those in
braces, and doubles double quotes for the string literal around it, so that exactly the value is
typed.
-/

namespace RemoteDesk.Script

/-- The characters that `Send` does not type as themselves. -/
def isSendSpecial (c : Char) : Bool :=
  c == '!' || c == '+' || c == '^' || c == '#' || c == '\x7b' || c == '\x7d'

/-- How one character is written inside a `Send` literal. -/
def escapeChar (c : Char) : List Char :=
  if isSendSpecial c then ['\x7b', c, '\x7d']
  else if c = '"' then ['"', '"']
  else [c]

/-- A value written so that `Send` types it literally. -/
def escape (value : String) : String :=
  String.ofList (value.toList.flatMap escapeChar)

end RemoteDesk.Script
