import RemoteDesk.Text.Utf8

/-! # Paths

A path is the byte string that was typed or read; nothing is normalised, so it prints as it was
given. Its components are the stretches between separators that name something: repeated
separators, a trailing separator and inner `.` components name nothing.
-/

namespace RemoteDesk

/-- A file or directory, named as it was given. -/
structure Path where
  bytes : Bytes
  deriving Repr, DecidableEq, Inhabited

namespace Path

def slash : UInt8 := 0x2f

def dot : UInt8 := 0x2e

def ofString (s : String) : Path :=
  ⟨Utf8.encode s⟩

/-- The path as text, with U+FFFD where it is none. -/
def display (p : Path) : String :=
  Utf8.decodeLossy p.bytes

/-- The path that names nothing. -/
def empty : Path := ⟨[]⟩

/-- Starts at the root directory. -/
def isAbsolute (p : Path) : Bool :=
  p.bytes.head? == some slash

/-- The stretches between separators, empty ones included. -/
def stretches : Bytes → List Bytes
  | [] => [[]]
  | b :: rest =>
    if b = slash then [] :: stretches rest
    else
      match stretches rest with
      | [] => [[b]]
      | s :: others => (b :: s) :: others

/-- The names that a path passes through, `.` and `..` among them. -/
def components (p : Path) : List Bytes :=
  (stretches p.bytes).filter (· ≠ [])

def endsInSlash (p : Path) : Bool :=
  p.bytes.getLast? == some slash

/-- Drops from the end, given last byte first, what names nothing: separators and `.` components.
    A path that is only separators keeps the first, and a leading `.` stays. -/
def dropIdleEnd : Bytes → Bytes
  | [] => []
  | [b] => [b]
  | a :: b :: rest =>
    if a = slash then dropIdleEnd (b :: rest)
    else if a = dot ∧ b = slash then dropIdleEnd (b :: rest)
    else a :: b :: rest

/-- The bytes of a path, last first, without an idle end. -/
def backwards (p : Path) : Bytes :=
  dropIdleEnd p.bytes.reverse

/-- The directory that holds what the path names; a single component is held by the empty path, and
    neither the empty path nor the root is held by anything. -/
def parent? (p : Path) : Option Path :=
  match p.backwards with
  | [] => none
  | back =>
    if back = [slash] then none
    else some ⟨(dropIdleEnd (back.dropWhile (· ≠ slash))).reverse⟩

/-- The last component, if it is a name and not `.` or `..`. -/
def fileName? (p : Path) : Option Bytes :=
  let name := (p.backwards.takeWhile (· ≠ slash)).reverse
  if name = [] ∨ name = [dot] ∨ name = [dot, dot] then none else some name

/-- A file name without its last extension. A name whose only dot comes first has none. -/
def stem (name : Bytes) : Bytes :=
  match (name.reverse.dropWhile (· ≠ dot)).tail.reverse with
  | [] => name
  | before => before

/-- The path `child` as seen from the directory `base`. -/
def join (base child : Path) : Path :=
  if child.isAbsolute then child
  else if base.bytes = [] ∨ base.endsInSlash then ⟨base.bytes ++ child.bytes⟩
  else ⟨base.bytes ++ slash :: child.bytes⟩

/-- A path followed by the directories that hold it, innermost first, up to the empty path. -/
def lineage (p : Path) : List Path :=
  go p.bytes.length p
where
  /-- At most `fuel` more directories; each is named by fewer bytes than the one before. -/
  go : Nat → Path → List Path
    | 0, _ => []
    | fuel + 1, p =>
      if p.bytes = [] then []
      else
        match p.parent? with
        | none => [p]
        | some holder => p :: go fuel holder

end Path

end RemoteDesk
