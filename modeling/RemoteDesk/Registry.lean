import RemoteDesk.Error
import RemoteDesk.FileTree
import RemoteDesk.Script.Fragment

/-! # The subtask registry

Subtasks wait in a registry until a script consumes them all. An id that comes again takes the new
fragment and keeps its place. Files of a directory are taken in the order of their names, so the
outcome does not depend on how the directory lists them.
-/

namespace RemoteDesk

/-- The subtasks that wait for the next script, by id. -/
structure Registry where
  subtasks : Catalog
  deriving Repr, DecidableEq

namespace Registry

def empty : Registry := ⟨[]⟩

def ids (r : Registry) : List String :=
  r.subtasks.names

def insert (r : Registry) (id fragment : String) : Except DeskError Registry :=
  if Script.isSubtaskId id then .ok ⟨r.subtasks.put id fragment⟩
  else .error (.invalidSubtaskId id)

/-- Adds the content of a file under an id. The file is read before the id is looked at. -/
def loadFile (r : Registry) (t : FileTree) (id : String) (path : Path) :
    Except DeskError Registry :=
  match t.readText path with
  | .error e => .error (.unreadableFragment path e)
  | .ok fragment => r.insert id fragment

/-- The order of file names: byte by byte, a name before those that it starts. -/
def nameOrder : Bytes → Bytes → Bool
  | [], _ => true
  | _ :: _, [] => false
  | a :: as, b :: bs => a < b || (a == b && nameOrder as bs)

/-- The files of a directory whose names match, in name order. -/
def matching (t : FileTree) (directory : Path) (glob : Glob) (names : List Bytes) : List Path :=
  let wanted := names.filter fun name => t.isFile (directory.join ⟨name⟩) && glob.isMatch name
  (wanted.mergeSort nameOrder).map fun name => directory.join ⟨name⟩

/-- Adds one file under its stem; the answer is the id. -/
def loadStem (r : Registry) (t : FileTree) (path : Path) : Except DeskError (String × Registry) :=
  match (path.fileName?.map Path.stem).bind Utf8.decode? with
  | none => .error (.fragmentNameNotText path)
  | some id =>
    match r.loadFile t id path with
    | .error e => .error e
    | .ok r' => .ok (id, r')

/-- Adds files one after another up to the first that fails; those before it stay. The answer is the
    ids in order. -/
def loadAll (r : Registry) (t : FileTree) : List Path → Except DeskError (List String) × Registry
  | [] => (.ok [], r)
  | path :: others =>
    match r.loadStem t path with
    | .error e => (.error e, r)
    | .ok (id, r') =>
      let (loaded, last) := r'.loadAll t others
      (loaded.map (id :: ·), last)

/-- Adds every file of a directory whose name matches a pattern. The pattern is read before the
    directory. -/
def loadDirectory (r : Registry) (t : FileTree) (directory : Path) (pattern : String) :
    Except DeskError (List String) × Registry :=
  match Glob.parse pattern with
  | .error e => (.error (.invalidPattern pattern e), r)
  | .ok glob =>
    match t.list directory with
    | .error e => (.error (.unreadableDirectory directory e), r)
    | .ok names => r.loadAll t (matching t directory glob names)

/-- Takes all subtasks out; the answer is how many there were. -/
def drain (r : Registry) : Nat × Registry :=
  (r.subtasks.length, empty)

end Registry

end RemoteDesk
