import RemoteDesk.Yaml.Character
import RemoteDesk.Yaml.Fault
import RemoteDesk.Yaml.Token

/-! # Tags and directives

A tag names the kind of a node. It is given in full, or by a handle and what follows it; a directive
says what a handle stands for. A percent sign and two digits of base sixteen stand for one byte; such
bytes must come in groups of the shape that UTF-8 has.
-/

namespace RemoteDesk.Yaml

namespace Tag

/-- May occur in a tag without an escape. The wide class is the one for tags given in full. -/
def isTagChar (wide : Bool) (c : Char) : Bool :=
  isNameChar c
    || c ∈ [';', '/', '?', ':', '@', '&', '=', '+', '$', '.', '!', '~', '*', '\'', '(', ')']
    || (wide && c ∈ [',', '[', ']'])

/-- How many bytes of a group are still to come after a byte, where `pending` were to come before
    it. -/
def pendingAfter? (pending octet : Nat) : Option Nat :=
  if pending ≠ 0 then if octet / 64 = 2 then some (pending - 1) else none
  else if octet < 0x80 then some 0
  else if octet / 32 = 6 then some 1
  else if octet / 16 = 14 then some 2
  else if octet / 8 = 30 then some 3
  else none

/-- The bytes that a text of tag characters stands for, and what follows it. -/
def readBytes (wide : Bool) (pending : Nat) : List Char → Except Fault (Bytes × List Char)
  | [] => if pending = 0 then .ok ([], []) else .error .badTag
  | c :: rest =>
    if c = '%' then
      match rest with
      | a :: b :: rest =>
        match hexValue? a, hexValue? b with
        | some high, some low =>
          let octet := 16 * high + low
          match pendingAfter? pending octet with
          | none => .error .badTag
          | some pending => extend octet (readBytes wide pending rest)
        | _, _ => .error .badTag
      | _ => .error .badTag
    else if pending ≠ 0 then .error .badTag
    else if isTagChar wide c then extend c.toNat (readBytes wide 0 rest)
    else .ok ([], c :: rest)
where
  /-- A byte before those that are read after it. -/
  extend (octet : Nat) : Except Fault (Bytes × List Char) → Except Fault (Bytes × List Char)
    | .error e => .error e
    | .ok (bytes, after) => .ok (UInt8.ofNat octet :: bytes, after)

/-- Bytes up to the first that is zero. -/
def untilZero (bytes : Bytes) : Bytes :=
  bytes.takeWhile (· ≠ 0)

/-- A tag that is not empty, and what follows it. -/
def readSome (wide : Bool) (cs : List Char) : Except Fault (Bytes × List Char) :=
  match readBytes wide 0 cs with
  | .error e => .error e
  | .ok ([], _) => .error .badTag
  | .ok (bytes, after) => .ok (untilZero bytes, after)

/-- Splits a text that starts with an exclamation mark after the name that follows the mark, and
    after a second mark if there is one. -/
def splitHandle (cs : List Char) : List Char × List Char :=
  let name := cs.tail.takeWhile isNameChar
  match cs.tail.dropWhile isNameChar with
  | '!' :: rest => ('!' :: name ++ ['!'], rest)
  | rest => ('!' :: name, rest)

/-- The tag without a handle or name: the node is what its shape says. -/
def nonSpecific : Token := .tag "" (Utf8.encode "!")

/-- Reads a tag that is given by a handle. -/
def readShort (cs : List Char) : Except Fault (Token × List Char) :=
  match splitHandle cs with
  | (handle, rest) =>
    if 1 < handle.length ∧ handle.getLast? = some '!' then
      match readSome false rest with
      | .error e => .error e
      | .ok (bytes, after) => .ok (.tag (String.ofList handle) bytes, after)
    else
      match readBytes false 0 rest with
      | .error e => .error e
      | .ok (bytes, after) =>
        match untilZero (Utf8.encode (String.ofList handle.tail) ++ bytes) with
        | [] => .ok (nonSpecific, after)
        | suffix => .ok (.tag "!" suffix, after)

/-- Reads a tag that is given in full, between angle brackets. -/
def readFull (cs : List Char) : Except Fault (Token × List Char) :=
  match readSome true cs with
  | .error e => .error e
  | .ok (bytes, '>' :: after) => .ok (.tag "" bytes, after)
  | .ok _ => .error .badTag

def read (cs : List Char) : Except Fault (Token × List Char) :=
  match cs with
  | '!' :: '<' :: rest => readFull rest
  | _ => readShort cs

end Tag

namespace Directive

/-- Digits that start a text, as a number; there must be some, and nine at most. -/
def readNumber (cs : List Char) : Except Fault (Nat × List Char) :=
  let digits := cs.takeWhile Char.isDigit
  if digits = [] ∨ 9 < digits.length then .error .badDirective
  else
    .ok (digits.foldl (fun n c => n * 10 + (c.toNat - 48)) 0, cs.dropWhile Char.isDigit)

def readVersion (cs : List Char) : Except Fault (Token × List Char) := do
  match ← readNumber cs with
  | (major, '.' :: rest) =>
    let (minor, after) ← readNumber rest
    return (.version major minor, after)
  | _ => throw .badDirective

def readMeaning (cs : List Char) : Except Fault (Token × List Char) := do
  if cs.head? ≠ some '!' then throw .badDirective
  let (handle, rest) := Tag.splitHandle cs
  if handle.getLast? ≠ some '!' ∨ !(rest.head?.any isWhite) then throw .badDirective
  let (meaning, after) ← Tag.readSome true (rest.dropWhile isWhite)
  if wordEnds after then return (.handle (String.ofList handle) meaning, after)
  else throw .badDirective

/-- Reads a directive after its percent sign, with the rest of its line. -/
def read (cs : List Char) : Except Fault (Token × List Char) := do
  let name := String.ofList (cs.takeWhile isNameChar)
  let rest := cs.dropWhile isNameChar
  if !wordEnds rest then throw .badDirective
  let values := rest.dropWhile isWhite
  let (token, after) ←
    if name = "YAML" then readVersion values
    else if name = "TAG" then readMeaning values
    else throw .badDirective
  match afterLine? after with
  | some after => return (token, after)
  | none => throw .badDirective

end Directive

end RemoteDesk.Yaml
