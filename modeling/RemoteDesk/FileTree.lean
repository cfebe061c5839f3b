import RemoteDesk.OsError
import RemoteDesk.Path

/-! # File trees

The files and directories that a run sees, as a value. A tree maps places, each the row of names
that leads there from the root, to files and directories; the root is always a directory. Paths are
followed component by component, so `..`, doubled separators and a trailing separator mean here what
they mean to the operating system. There are no links.

Each operation that changes a tree returns the new one beside its outcome.
-/

namespace RemoteDesk

/-- What stands at a place. -/
inductive Entry where
  | file (content : Bytes)
  | directory
  deriving Repr, DecidableEq

/-- The names that lead from the root to a file or directory. -/
abbrev Place := List Bytes

/-- Everything on disk, in the order in which it appeared, and the directory that relative paths
    start from. -/
structure FileTree where
  entries : List (Place × Entry)
  workingDirectory : Place

namespace FileTree

/-- The most bytes that a name may have. -/
def maxName : Nat := 255

/-- A path must have fewer bytes than this. -/
def pathLimit : Nat := 4096

def entry? (t : FileTree) (place : Place) : Option Entry :=
  if place = [] then some .directory else t.entries.lookup place

/-- Puts an entry at a place, over what stood there. -/
def set (t : FileTree) (place : Place) (entry : Entry) : FileTree :=
  { t with entries := put t.entries }
where
  /-- Replaces the first entry of the place, or adds one at the end. -/
  put : List (Place × Entry) → List (Place × Entry)
    | [] => [(place, entry)]
    | (q, e) :: others => if q = place then (place, entry) :: others else (q, e) :: put others

def remove (t : FileTree) (place : Place) : FileTree :=
  { t with entries := t.entries.filter (·.1 ≠ place) }

def isDirectoryAt (t : FileTree) (place : Place) : Bool :=
  t.entry? place == some .directory

/-- The place that one component leads to from a directory, whether or not something stands there. -/
def step (directory : Place) (component : Bytes) : Except OsError Place :=
  if component = [Path.dot] then .ok directory
  else if component = [Path.dot, Path.dot] then .ok directory.dropLast
  else if maxName < component.length then .error .nameTooLong
  else .ok (directory ++ [component])

/-- Follows components that must all be directories. -/
def descend (t : FileTree) (directory : Place) : List Bytes → Except OsError Place
  | [] => .ok directory
  | component :: rest => do
    let next ← step directory component
    match t.entry? next with
    | none => .error .notFound
    | some (.file _) => .error .notDirectory
    | some .directory => t.descend next rest

/-- Rules that a path must keep before any of it is looked up. -/
def checkSpelling (p : Path) : Except OsError Unit :=
  if 0 ∈ p.bytes then .error .nulInName
  else if p.bytes = [] then .error .notFound
  else if pathLimit ≤ p.bytes.length then .error .nameTooLong
  else .ok ()

/-- A path followed up to its last component: the directory reached and the component itself, which
    is missing only for the root. -/
def approach (t : FileTree) (p : Path) : Except OsError (Place × Option Bytes) := do
  checkSpelling p
  let start := if p.isAbsolute then [] else t.workingDirectory
  let components := p.components
  let directory ← t.descend start components.dropLast
  return (directory, components.getLast?)

/-- The existing file or directory that a path names. -/
def find (t : FileTree) (p : Path) : Except OsError (Place × Entry) := do
  let (directory, last) ← t.approach p
  match last with
  | none => return (directory, .directory)
  | some component =>
    let place ← step directory component
    match t.entry? place with
    | none => .error .notFound
    | some .directory => return (place, .directory)
    | some (.file content) =>
      if p.endsInSlash then .error .notDirectory else return (place, .file content)

def pathExists (t : FileTree) (p : Path) : Bool :=
  (t.find p).toOption.isSome

def isFile (t : FileTree) (p : Path) : Bool :=
  match t.find p with
  | .ok (_, .file _) => true
  | _ => false

def isDirectory (t : FileTree) (p : Path) : Bool :=
  match t.find p with
  | .ok (_, .directory) => true
  | _ => false

def read (t : FileTree) (p : Path) : Except OsError Bytes :=
  match t.find p with
  | .ok (_, .file content) => .ok content
  | .ok (_, .directory) => .error .isDirectory
  | .error e => .error e

def readText (t : FileTree) (p : Path) : Except OsError String := do
  match Utf8.decode? (← t.read p) with
  | some text => return text
  | none => .error .notText

/-- The names in a directory, in the order in which they appeared. -/
def namesAt (t : FileTree) (directory : Place) : List Bytes :=
  t.entries.filterMap fun (place, _) =>
    match place.getLast? with
    | some name => if place.dropLast = directory then some name else none
    | none => none

/-- The names in the directory that a path names. -/
def list (t : FileTree) (p : Path) : Except OsError (List Bytes) :=
  match t.find p with
  | .ok (place, .directory) => .ok (t.namesAt place)
  | .ok (_, .file _) => .error .notDirectory
  | .error e => .error e

/-- The last component of a path as a name of its own, and not `.`, `..` or the root. -/
def ownName? : Option Bytes → Option Bytes
  | none => none
  | some component =>
    if component = [Path.dot] ∨ component = [Path.dot, Path.dot] then none else some component

def makeDirectory (t : FileTree) (p : Path) : Except OsError FileTree := do
  let (directory, last) ← t.approach p
  match ownName? last with
  | none => .error .alreadyExists
  | some name =>
    let place ← step directory name
    match t.entry? place with
    | some _ => .error .alreadyExists
    | none => return t.set place .directory

/-- Makes the first directory of a lineage, making those that follow it where they are missing. -/
def makeLineage (t : FileTree) : List Path → Except OsError Unit × FileTree
  | [] => (.ok (), t)
  | p :: holders =>
    match t.makeDirectory p with
    | .ok made => (.ok (), made)
    | .error .notFound =>
      match t.makeLineage holders with
      | (.error e, t') => (.error e, t')
      | (.ok (), t') =>
        match t'.makeDirectory p with
        | .ok made => (.ok (), made)
        | .error e => (if t'.isDirectory p then .ok () else .error e, t')
    | .error e => (if t.isDirectory p then .ok () else .error e, t)

/-- Makes a directory and those that should hold it. Directories made before a refusal stay. -/
def makeDirectories (t : FileTree) (p : Path) : Except OsError Unit × FileTree :=
  t.makeLineage p.lineage

/-- The place at which a file can be opened for writing, made if it is missing. -/
def writable (t : FileTree) (p : Path) : Except OsError Place := do
  let (directory, last) ← t.approach p
  match ownName? last with
  | none => .error .isDirectory
  | some name =>
    if p.endsInSlash then .error .isDirectory
    else
      let place ← step directory name
      match t.entry? place with
      | some .directory => .error .isDirectory
      | _ => return place

/-- Makes a file with the given content, over an old one. -/
def write (t : FileTree) (p : Path) (content : Bytes) : Except OsError FileTree := do
  let place ← t.writable p
  return t.set place (.file content)

/-- Adds to the end of a file, making it if it is missing. -/
def append (t : FileTree) (p : Path) (more : Bytes) : Except OsError FileTree := do
  let place ← t.writable p
  match t.entry? place with
  | some (.file content) => return t.set place (.file (content ++ more))
  | _ => return t.set place (.file more)

/-- Moves the file at `source` to the place that `target` names, over a file that stood there. -/
def rename (t : FileTree) (source target : Path) : Except OsError FileTree := do
  let (_, last) ← t.approach source
  let (directory, newLast) ← t.approach target
  match ownName? last, ownName? newLast with
  | some _, some name =>
    match ← t.find source with
    | (_, .directory) => .error .isDirectory
    | (old, .file content) =>
      let place ← step directory name
      if target.endsInSlash then .error .notDirectory
      else if t.isDirectoryAt place then .error .isDirectory
      else return (t.remove old).set place (.file content)
  | _, _ => .error .busy

def removeFile (t : FileTree) (p : Path) : FileTree :=
  match t.find p with
  | .ok (place, .file _) => t.remove place
  | _ => t

end FileTree

end RemoteDesk
