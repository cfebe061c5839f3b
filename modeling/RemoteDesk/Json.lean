import RemoteDesk.Decimal.Shortest

/-! # JSON values

The details of an audit event are a JSON value. An object lists its fields in the order of their
names and has each name once; a value prints on one line, without spaces.
-/

namespace RemoteDesk

inductive Json.Number where
  /-- A whole number of at most 64 bits. -/
  | whole (n : Int)
  /-- Any other number, as the nearest double. -/
  | double (x : Double)
  deriving Repr, DecidableEq

inductive Json where
  | null
  | bool (b : Bool)
  | number (n : Json.Number)
  | string (s : String)
  | array (items : List Json)
  | object (fields : List (String × Json))

namespace Json

/-- Puts a field among fields in name order; a field of the same name is replaced. -/
def insertField (name : String) (value : Json) : List (String × Json) → List (String × Json)
  | [] => [(name, value)]
  | (other, old) :: rest =>
    if other = name then (name, value) :: rest
    else if name < other then (name, value) :: (other, old) :: rest
    else (other, old) :: insertField name value rest

/-- The object with the given fields; the last field of a name counts. -/
def ofFields (fields : List (String × Json)) : Json :=
  .object (fields.foldl (fun sorted (name, value) => insertField name value sorted) [])

def ofStrings (texts : List String) : Json :=
  .array (texts.map .string)

/-! ## Printing -/

def hexDigit (n : Nat) : Char :=
  if n < 10 then Char.ofNat (48 + n) else Char.ofNat (87 + n)

/-- How a character stands inside quotes: control characters, the quote and the backslash are
    escaped, with a short form where there is one. -/
def escapeChar (c : Char) : List Char :=
  if c = '"' then ['\\', '"']
  else if c = '\\' then ['\\', '\\']
  else if c = '\n' then ['\\', 'n']
  else if c = '\r' then ['\\', 'r']
  else if c = '\t' then ['\\', 't']
  else if c.toNat = 8 then ['\\', 'b']
  else if c.toNat = 12 then ['\\', 'f']
  else if c.toNat < 32 then
    ['\\', 'u', '0', '0', hexDigit (c.toNat / 16), hexDigit (c.toNat % 16)]
  else [c]

def printString (s : String) : List Char :=
  '"' :: s.toList.flatMap escapeChar ++ ['"']

def Number.print : Number → List Char
  | .whole n => if n < 0 then '-' :: Nat.toDigits 10 n.natAbs else Nat.toDigits 10 n.natAbs
  | .double x => (Decimal.text x).toList

mutual

def print : Json → List Char
  | .null => ['n', 'u', 'l', 'l']
  | .bool true => ['t', 'r', 'u', 'e']
  | .bool false => ['f', 'a', 'l', 's', 'e']
  | .number n => n.print
  | .string s => printString s
  | .array items => '[' :: printItems items ++ [']']
  | .object fields => '\x7b' :: printFields fields ++ ['\x7d']

/-- The items of an array, with commas between them. -/
def printItems : List Json → List Char
  | [] => []
  | [item] => item.print
  | item :: next :: rest => item.print ++ ',' :: printItems (next :: rest)

/-- The fields of an object, with commas between them. -/
def printFields : List (String × Json) → List Char
  | [] => []
  | [(name, value)] => printString name ++ ':' :: value.print
  | (name, value) :: next :: rest =>
    printString name ++ ':' :: value.print ++ ',' :: printFields (next :: rest)

end

end Json

end RemoteDesk
