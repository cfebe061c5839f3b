import RemoteDesk.Audit.Event
import RemoteDesk.FileTree.Replace

/-! # The audit log

Events are added to the end of a file, one line each. What the file held before stays as it is.
-/

namespace RemoteDesk.Audit

def Event.bytes (e : Event) : Bytes :=
  Utf8.encode (e.line ++ "\n")

/-- Adds an event to the file at `path`, making the file and the directory for it if needed. -/
def append (t : FileTree) (path : Path) (e : Event) : Except DeskError Unit × FileTree :=
  match t.makeParent path .eventsDirectory with
  | (.error e, t') => (.error e, t')
  | (.ok (), t') =>
    match t'.append path e.bytes with
    | .error cause => (.error (.eventsFile path cause), t')
    | .ok t'' => (.ok (), t'')

end RemoteDesk.Audit
