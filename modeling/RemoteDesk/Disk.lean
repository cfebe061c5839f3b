import RemoteDesk.FileTree
import Std.Time.DateTime.Timestamp
import RemoteDesk.Timestamp

/-! # The disk

What a step of the program may read is looked up on disk and put into a file tree; what the step
changed in the tree is then done on disk. A file that only grew is added to, and any other is replaced
in one move.
-/

namespace RemoteDesk.Disk

def placeName (place : Place) : String :=
  "/" ++ String.intercalate "/" (place.map Utf8.decodeLossy)

def entryAt (place : Place) : IO (Option Entry) := do
  let file := (← IO.currentDir) / placeName place
  if ← file.isDir then return some .directory
  else if ← file.pathExists then return some (.file (← IO.FS.readBinFile file).toList)
  else return none

def workingDirectory : IO Path := do
  return Path.ofString (← IO.currentDir).toString

/-- A tree with nothing but the working directory. -/
def bareTree : IO FileTree := do
  return ⟨[], (← workingDirectory).components⟩

/-- Puts into a tree what stands at the places that a path passes through. -/
def look (t : FileTree) (p : Path) : IO FileTree := do
  let mut tree := t
  let mut place := if p.isAbsolute then [] else t.workingDirectory
  for component in p.components do
    match FileTree.step place component with
    | .error _ => break
    | .ok next =>
      place := next
      if (tree.entry? place).isNone then
        if let some entry ← entryAt place then
          tree := tree.set place entry
  return tree

/-- The same for several paths. -/
def lookAll (t : FileTree) (ps : List Path) : IO FileTree :=
  ps.foldlM look t

/-- The same for a directory and what is in it. -/
def lookInside (t : FileTree) (p : Path) : IO FileTree := do
  let tree ← look t p
  match tree.find p with
  | .ok (place, .directory) =>
    let directory := (← IO.currentDir) / placeName place
    let names := (← directory.readDir).toList.map fun found => Utf8.encode found.fileName
    lookAll tree (names.map fun name => p.join ⟨name⟩)
  | _ => return tree

def put (place : Place) (old : Option Entry) (content : Bytes) : IO Unit := do
  let file := (← IO.currentDir) / placeName place
  match old with
  | some (.file start) =>
    if start ≠ [] ∧ start.isPrefixOf content then
      let handle ← IO.FS.Handle.mk file .append
      handle.write ⟨(content.drop start.length).toArray⟩
      handle.flush
      return
  | _ => pure ()
  let sibling := (← IO.currentDir) / (placeName place ++ ".new")
  IO.FS.writeBinFile sibling ⟨content.toArray⟩
  IO.FS.rename sibling file

/-- Does on disk what makes one tree the other. -/
def commit (before later : FileTree) : IO Unit := do
  for (place, entry) in later.entries do
    if before.entry? place ≠ some entry then
      match entry with
      | .directory => IO.FS.createDirAll ((← IO.currentDir) / placeName place)
      | .file content => put place (before.entry? place) content
  for (place, _) in before.entries do
    if (later.entry? place).isNone then
      IO.FS.removeFile ((← IO.currentDir) / placeName place)

def now : IO Timestamp := do
  let nanos := (← Std.Time.Timestamp.now).toNanosecondsSinceUnixEpoch.val
  let seconds := nanos / 1000000000
  return ⟨seconds / 86400, (seconds % 86400).toNat, (nanos % 1000000000).toNat⟩

/-- Whoever runs the program, and where. -/
def actor : IO String := do
  let user ← match ← IO.getEnv "USER" with
    | some user => pure (some user)
    | none => IO.getEnv "USERNAME"
  let host ← match ← entryAt (Path.ofString "/etc/hostname").components with
    | some (.file name) => pure (Utf8.decodeLossy (name.takeWhile (· ≠ 0x0a)))
    | _ => pure "unknown"
  return user.getD "unknown" ++ "@" ++ host

end RemoteDesk.Disk
