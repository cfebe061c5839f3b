import RemoteDesk.Error
import RemoteDesk.FileTree

/-! # Replacing a file as a whole

A script reaches its file in one step: the text is written to a sibling whose name is derived from
the target's, and the sibling is then moved over the target. A refusal leaves the target as it was;
directories that were made for it stay.
-/

namespace RemoteDesk.FileTree

/-- Makes the directory that should hold what a path names, unless it exists. The error is worded
    by `complain`. -/
def makeParent (t : FileTree) (p : Path) (complain : Path → OsError → DeskError) :
    Except DeskError Unit × FileTree :=
  match p.parent? with
  | none => (.ok (), t)
  | some parent =>
    if parent.bytes = [] ∨ t.pathExists parent then (.ok (), t)
    else
      match t.makeDirectories parent with
      | (.ok (), t') => (.ok (), t')
      | (.error e, t') => (.error (complain parent e), t')

/-- The sibling that holds the text until it is complete: `.name.tmp` for `name`. -/
def temporarySibling? (p : Path) : Option Path :=
  match p.fileName? with
  | none => none
  | some name =>
    if (Utf8.decode? name).isSome then
      some ((p.parent?.getD ⟨[Path.dot]⟩).join
        ⟨Path.dot :: name ++ Utf8.encode ".tmp"⟩)
    else none

/-- Puts `content` at the sibling and moves it to `p`. -/
def replaceThrough (t : FileTree) (sibling p : Path) (content : Bytes) :
    Except DeskError Unit × FileTree :=
  match t.write sibling content with
  | .error e => (.error (.temporaryFile sibling e), t)
  | .ok written =>
    match written.rename sibling p with
    | .error e => (.error (.replaceFile p e), written.removeFile sibling)
    | .ok replaced => (.ok (), replaced)

/-- Makes `content` the content of the file at `p`, in one step, making missing directories. -/
def replace (t : FileTree) (p : Path) (content : Bytes) : Except DeskError Unit × FileTree :=
  match t.makeParent p .parentDirectory with
  | (.error e, t') => (.error e, t')
  | (.ok (), t') =>
    match temporarySibling? p with
    | none => (.error .invalidFilePath, t')
    | some sibling => t'.replaceThrough sibling p content

end RemoteDesk.FileTree
