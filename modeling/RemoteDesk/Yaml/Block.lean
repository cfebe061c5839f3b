import RemoteDesk.Yaml.Fault
import RemoteDesk.Yaml.Character

/-! # Block scalars

A block scalar takes whole lines, less the indentation that all of them share. Its header says whether
the lines are kept as they are or folded, what becomes of the line breaks at its end, and possibly
how far it is indented; otherwise its first line with content shows that.
-/

namespace RemoteDesk.Yaml.Block

/-- What becomes of the line breaks at the end. -/
inductive Chomping where
  /-- All are dropped. -/
  | strip
  /-- The one that ends the last line with content stays. -/
  | clip
  /-- All stay. -/
  | keep
  deriving Repr, DecidableEq

/-- What the first line of a block scalar says after its mark. -/
structure Header where
  chomping : Chomping
  /-- The indentation relative to what holds the scalar. -/
  increment : Option Nat
  deriving Repr, DecidableEq

/-- The sign of a way to chomp. -/
def chomping? (c : Char) : Option Chomping :=
  if c = '+' then some .keep else if c = '-' then some .strip else none

/-- An indentation from one to nine. -/
def increment? (c : Char) : Option Nat :=
  if '1' ≤ c ∧ c ≤ '9' then some (c.toNat - 48) else none

/-- The signs that a header starts with, in either order. -/
def readSigns : List Char → Header × List Char
  | [] => (⟨.clip, none⟩, [])
  | c :: rest =>
    match chomping? c, increment? c with
    | some chomping, _ =>
      match rest.head?.bind increment? with
      | some increment => (⟨chomping, some increment⟩, rest.tail)
      | none => (⟨chomping, none⟩, rest)
    | none, some increment =>
      match rest.head?.bind chomping? with
      | some chomping => (⟨chomping, some increment⟩, rest.tail)
      | none => (⟨.clip, some increment⟩, rest)
    | none, none => (⟨.clip, none⟩, c :: rest)

/-- Reads the first line, with the line break that ends it. -/
def readHeader (cs : List Char) : Except Fault (Header × List Char) :=
  let (header, rest) := readSigns cs
  match afterLine? rest with
  | none => .error .badBlockHeader
  | some rest => .ok (header, rest)

/-- The widest indentation of the blank lines at the start and of the first line with content. -/
def widest (column soFar : Nat) : List Char → Except Fault Nat
  | [] => .ok (max column soFar)
  | c :: rest =>
    if c = ' ' then widest (column + 1) soFar rest
    else if c = '\t' then .error .tabInIndentation
    else if isBreak c then widest 0 (max column soFar) rest
    else .ok (max column soFar)

/-- The line breaks since the last line with content. -/
structure Pause where
  /-- The break that ended that line. -/
  first : Option Char
  more : List Char
  /-- That line started with white space. -/
  afterWhite : Bool
  deriving Repr, DecidableEq

namespace Pause

def start : Pause := ⟨none, [], false⟩

def breaks (p : Pause) : List Char :=
  p.first.toList ++ p.more

/-- What is read in place of the breaks before a line that starts with white space or not. In folded
    lines a single line feed between words becomes a space. -/
def text (p : Pause) (folded startsWhite : Bool) : List Char :=
  if folded ∧ p.first = some '\n' ∧ !p.afterWhite ∧ !startsWhite then
    if p.more = [] then [' '] else p.more
  else p.breaks

/-- What is read in place of the breaks at the end. -/
def ending (p : Pause) : Chomping → List Char
  | .strip => []
  | .clip => p.first.toList
  | .keep => p.breaks

end Pause

/-- How the lines of a block scalar are read. -/
structure Layout where
  folded : Bool
  chomping : Chomping
  indent : Nat

mutual

/-- Reads on from a column of the indentation of a line. -/
def readMargin (l : Layout) (p : Pause) (column : Nat) :
    List Char → Except Fault (List Char × List Char)
  | [] => .ok (p.ending l.chomping, [])
  | c :: rest =>
    if c = ' ' ∧ column < l.indent then readMargin l p (column + 1) rest
    else if c = '\t' ∧ column < l.indent then .error .tabInIndentation
    else if isBreak c then readMargin l { p with more := p.more ++ [c] } 0 rest
    else if column = l.indent then
      match readContent l (isWhite c) rest with
      | .error e => .error e
      | .ok (text, after) => .ok (p.text l.folded (isWhite c) ++ c :: text, after)
    else .ok (p.ending l.chomping, c :: rest)

/-- Reads on within a line that started with white space or not. -/
def readContent (l : Layout) (startedWhite : Bool) :
    List Char → Except Fault (List Char × List Char)
  | [] => .ok ([], [])
  | c :: rest =>
    if isBreak c then readMargin l ⟨some c, [], startedWhite⟩ 0 rest
    else
      match readContent l startedWhite rest with
      | .error e => .error e
      | .ok (text, after) => .ok (c :: text, after)

end

/-- Reads a block scalar after its mark. What holds it is indented by `outer`, and its own lines by
    `margin` at least. -/
def read (folded : Bool) (outer margin : Nat) (cs : List Char) :
    Except Fault (List Char × List Char) :=
  match readHeader cs with
  | .error e => .error e
  | .ok (header, rest) =>
    match header.increment with
    | some increment => readMargin ⟨folded, header.chomping, outer + increment⟩ .start 0 rest
    | none =>
      match widest 0 0 rest with
      | .error e => .error e
      | .ok found =>
        readMargin ⟨folded, header.chomping, max found (max margin 1)⟩ .start 0 rest

end RemoteDesk.Yaml.Block
