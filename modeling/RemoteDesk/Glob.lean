import RemoteDesk.Text.Utf8

/-! # Glob patterns

A pattern describes file names. `*` and `?` stand for any bytes and for one byte, `[…]` for one byte
of a class, `{…,…}` for one of several patterns, and a backslash takes the power from the character
after it. Two stars beside separators stand for any row of directories.

Patterns are read from characters and matched against bytes: a character of several bytes is the row
of its bytes, and in a class it contributes each of them on its own.
-/

namespace RemoteDesk

namespace Glob

/-- Why a text is no pattern. -/
inductive Fault where
  | unclosedClass
  /-- A range that ends before it starts. -/
  | invalidRange (first last : Char)
  | unclosedAlternates
  | unopenedAlternates
  | danglingEscape
  deriving Repr, DecidableEq

def Fault.message : Fault → String
  | .unclosedClass => "unclosed character class; missing ']'"
  | .invalidRange first last =>
    "invalid range; '" ++ first.toString ++ "' > '" ++ last.toString ++ "'"
  | .unclosedAlternates =>
    "unclosed alternate group; missing '\x7d' (maybe escape '\x7b' with '[\x7b]'?)"
  | .unopenedAlternates =>
    "unopened alternate group; missing '\x7b' (maybe escape '\x7d' with '[\x7d]'?)"
  | .danglingEscape => "dangling '\\'"

inductive Part where
  | literal (c : Char)
  | anyByte
  | anyBytes
  /-- Any row of directories before the rest of the name, or none. -/
  | leadingDirectories
  /-- A separator and anything after it. -/
  | everythingBelow
  /-- A separator, or a row of directories between separators. -/
  | innerDirectories
  /-- One byte inside the ranges, or outside them all. -/
  | oneOf (negated : Bool) (ranges : List (Char × Char))
  /-- One of several patterns; those that describe nothing do not count. -/
  | alternates (branches : List (List Part))

/-! ## Reading -/

structure ClassReading where
  /-- The class stands for what its ranges leave out. -/
  negated : Bool
  /-- Nothing has been read yet, so that `]` and `-` stand for themselves. -/
  first : Bool
  /-- A `-` has been read, so that the next character ends the last range. -/
  inRange : Bool
  /-- The ranges, last one first. -/
  ranges : List (Char × Char)

/-- Reads one more character of a class; the answer is `none` for the `]` that ends it. -/
def ClassReading.read (k : ClassReading) (c : Char) : Except Fault (Option ClassReading) :=
  if c = ']' ∧ !k.first then .ok none
  else if c = '-' ∧ !k.first ∧ !k.inRange then .ok (some { k with inRange := true })
  else
    match k.inRange, k.ranges with
    | true, (low, _) :: others =>
      if c < low then .error (.invalidRange low c)
      else .ok (some { k with inRange := false, first := false, ranges := (low, c) :: others })
    | _, ranges =>
      .ok (some { k with inRange := false, first := false, ranges := (c, c) :: ranges })

/-- The class that was read; a `-` that came last stands for itself. -/
def ClassReading.part (k : ClassReading) : Part :=
  .oneOf k.negated (if k.inRange then ('-', '-') :: k.ranges else k.ranges).reverse

structure OpenGroup where
  /-- The parts before the group, last one first. -/
  before : List Part
  /-- The finished branches, last one first. -/
  branches : List (List Part)

structure Reading where
  /-- The groups that are still open, innermost first. -/
  groups : List OpenGroup
  /-- The branch that is being read, last part first. -/
  current : List Part
  charClass : Option ClassReading
  previous : Option Char

namespace Reading

def start : Reading := ⟨[], [], none, none⟩

/-- Adds a part to the branch that is being read. -/
def push (r : Reading) (part : Part) : Reading :=
  { r with current := part :: r.current }

def after (r : Reading) (c : Char) : Reading :=
  { r with previous := some c }

def openGroup (r : Reading) : Reading :=
  { r with groups := ⟨r.current, []⟩ :: r.groups, current := [] }

/-- Starts the next branch of the innermost group; outside groups a comma is itself. -/
def comma (r : Reading) : Reading :=
  match r.groups with
  | [] => r.push (.literal ',')
  | g :: others =>
    { r with
      groups := { g with branches := r.current.reverse :: g.branches } :: others
      current := [] }

def closeGroup (r : Reading) : Except Fault Reading :=
  match r.groups with
  | [] => .error .unopenedAlternates
  | g :: others =>
    .ok { r with
      groups := others
      current := .alternates (r.current.reverse :: g.branches).reverse :: g.before }

/-- Replaces the separator before two stars by what both stand for together; directories that were
    read before already stand for it. -/
def widen (r : Reading) (part : Part) : Reading :=
  match r.current with
  | .leadingDirectories :: _ => r
  | .everythingBelow :: _ => r
  | _ :: before => { r with current := part :: before }
  | [] => r.push part

/-- Two stars, given the character that follows them. Beside separators, the start, the end and the
    edges of a branch they stand for directories, and elsewhere for what one star stands for. The
    flag tells that the separator after them belongs to them. -/
def stars (r : Reading) (next : Option Char) : Reading × Bool :=
  if r.current.isEmpty then
    if next = none ∨ next = some '/' then (r.push .leadingDirectories, next.isSome)
    else ((r.push .anyBytes).push .anyBytes, false)
  else if r.previous = some '/'
      ∨ (!r.groups.isEmpty ∧ (r.previous = some ',' ∨ r.previous = some '\x7b')) then
    if next = some '/' then (r.widen .innerDirectories, true)
    else if next = none ∨ (!r.groups.isEmpty ∧ (next = some ',' ∨ next = some '\x7d')) then
      (r.widen .everythingBelow, false)
    else ((r.push .anyBytes).push .anyBytes, false)
  else ((r.push .anyBytes).push .anyBytes, false)

end Reading

def readFrom (r : Reading) : List Char → Except Fault Reading
  | [] => if r.charClass.isSome then .error .unclosedClass else .ok r
  | c :: rest =>
    match r.charClass with
    | some k =>
      match k.read c with
      | .error e => .error e
      | .ok none => readFrom { (r.push k.part).after c with charClass := none } rest
      | .ok (some k') => readFrom { r.after c with charClass := some k' } rest
    | none =>
      if c = '*' then
        match rest with
        | [] => .ok ((r.push .anyBytes).after c)
        | d :: beyond =>
          if d = '*' then
            match beyond with
            | [] => .ok ((r.stars none).1.after d)
            | e :: further =>
              if (r.stars (some e)).2 then readFrom ((r.stars (some e)).1.after e) further
              else readFrom ((r.stars (some e)).1.after d) (e :: further)
          else readFrom ((r.push .anyBytes).after c) (d :: beyond)
      else if c = '?' then readFrom ((r.push .anyByte).after c) rest
      else if c = '[' then
        match rest with
        | [] => .error .unclosedClass
        | d :: beyond =>
          if d = '!' ∨ d = '^' then
            readFrom { r.after d with charClass := some ⟨true, true, false, []⟩ } beyond
          else readFrom { r.after c with charClass := some ⟨false, true, false, []⟩ } (d :: beyond)
      else if c = '\x7b' then readFrom (r.openGroup.after c) rest
      else if c = '\x7d' then
        match r.closeGroup with
        | .error e => .error e
        | .ok r' => readFrom (r'.after c) rest
      else if c = ',' then readFrom (r.comma.after c) rest
      else if c = '\\' then
        match rest with
        | [] => .error .danglingEscape
        | d :: beyond => readFrom ((r.push (.literal d)).after d) beyond
      else readFrom ((r.push (.literal c)).after c) rest

end Glob

/-- A pattern for file names. -/
structure Glob where
  parts : List Glob.Part

namespace Glob

def parse (pattern : String) : Except Fault Glob :=
  match readFrom .start pattern.toList with
  | .error e => .error e
  | .ok r => if r.groups.isEmpty then .ok ⟨r.current.reverse⟩ else .error .unclosedAlternates

/-! ## Matching -/

/-- The byte that separates directories. -/
def separator : UInt8 := 0x2f

/-- The ends of a byte string, from the whole to nothing. -/
def ends : Bytes → List Bytes
  | [] => [[]]
  | b :: rest => (b :: rest) :: ends rest

/-- What may follow a separator: the ends of a byte string that come right after one. -/
def endsAfterSeparator : Bytes → List Bytes
  | [] => []
  | b :: rest => if b = separator then rest :: endsAfterSeparator rest else endsAfterSeparator rest

/-- The byte ranges of a class. The range of two characters runs from the last byte of the first to
    the first byte of the second, and the bytes around it count on their own. -/
def byteRanges (range : Char × Char) : List (UInt8 × UInt8) :=
  let low := String.utf8EncodeChar range.1
  let high := String.utf8EncodeChar range.2
  if range.1 = range.2 then low.map fun b => (b, b)
  else
    match low.getLast?, high with
    | some a, z :: tail =>
      low.dropLast.map (fun b => (b, b)) ++ (a, z) :: tail.map fun b => (b, b)
    | _, _ => []

def inClass (negated : Bool) (ranges : List (Char × Char)) (b : UInt8) : Bool :=
  (ranges.flatMap byteRanges).any (fun r => r.1 ≤ b && b ≤ r.2) != negated

mutual

/-- The part describes nothing: a group whose branches all describe nothing. -/
def Part.isSilent : Part → Bool
  | .alternates branches => Part.areSilent branches
  | _ => false

/-- Every branch describes nothing. -/
def Part.areSilent : List (List Part) → Bool
  | [] => true
  | branch :: others => Part.isSilentBranch branch && Part.areSilent others

/-- Every part of the branch describes nothing. -/
def Part.isSilentBranch : List Part → Bool
  | [] => true
  | part :: others => part.isSilent && Part.isSilentBranch others

end

mutual

/-- The ends of a byte string that a part leaves after matching its start. -/
def Part.leaves : Part → Bytes → List Bytes
  | .literal c, bytes =>
    let own := String.utf8EncodeChar c
    if own.isPrefixOf bytes then [bytes.drop own.length] else []
  | .anyByte, bytes =>
    match bytes with
    | [] => []
    | _ :: rest => [rest]
  | .anyBytes, bytes => ends bytes
  | .leadingDirectories, bytes => bytes :: endsAfterSeparator bytes
  | .everythingBelow, bytes =>
    match bytes with
    | [] => []
    | b :: rest => if b = separator then ends rest else []
  | .innerDirectories, bytes =>
    match bytes with
    | [] => []
    | b :: rest => if b = separator then rest :: endsAfterSeparator rest else []
  | .oneOf negated ranges, bytes =>
    match bytes with
    | [] => []
    | b :: rest => if inClass negated ranges b then [rest] else []
  | .alternates branches, bytes =>
    if Part.areSilent branches then [bytes] else Part.leavesOfAny branches bytes

/-- What one of several patterns leaves. -/
def Part.leavesOfAny : List (List Part) → Bytes → List Bytes
  | [], _ => []
  | branch :: others, bytes =>
    (if Part.isSilentBranch branch then [] else Part.leavesOfAll branch [bytes])
      ++ Part.leavesOfAny others bytes

/-- What parts leave, one after another, of several byte strings. -/
def Part.leavesOfAll : List Part → List Bytes → List Bytes
  | [], starts => starts
  | part :: others, starts =>
    Part.leavesOfAll others (starts.flatMap part.leaves).eraseDups

end

def isMatch (g : Glob) (name : Bytes) : Bool :=
  match g.parts with
  | [.leadingDirectories] => true
  | parts => (Part.leavesOfAll parts [name]).contains []

end Glob

end RemoteDesk
