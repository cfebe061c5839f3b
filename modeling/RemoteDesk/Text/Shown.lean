import RemoteDesk.Text.Visible

/-! # Texts as they are shown in messages

A text in a message stands in double quotes. Characters that would not show there are written by
their number in base sixteen, and those with a short form by that.
-/

namespace RemoteDesk.Text

/-- A character as it is shown inside double quotes. -/
def shownChar (c : Char) : List Char :=
  if c = '\x00' then ['\\', '0']
  else if c = '\t' then ['\\', 't']
  else if c = '\r' then ['\\', 'r']
  else if c = '\n' then ['\\', 'n']
  else if c = '\\' then ['\\', '\\']
  else if c = '"' then ['\\', '"']
  else if isVisible c then [c]
  else ['\\', 'u', '\x7b'] ++ Nat.toDigits 16 c.toNat ++ ['\x7d']

def shown (s : String) : String :=
  String.ofList (['"'] ++ s.toList.flatMap shownChar ++ ['"'])

end RemoteDesk.Text
