import RemoteDesk.Catalog
import RemoteDesk.FileTree.Replace

/-! # The script store

Finished scripts are kept by task key, in the order in which each key first came. A script can be
written to a directory under its key.
-/

namespace RemoteDesk

/-- The finished scripts of a run, by task key. -/
structure Store where
  scripts : Catalog
  deriving Repr, DecidableEq

namespace Store

def empty : Store := ⟨[]⟩

def keys (s : Store) : List String :=
  s.scripts.names

def get? (s : Store) (key : String) : Option String :=
  s.scripts.get? key

/-- Keeps a script under a key; an older one under the same key is replaced in its place. -/
def add (s : Store) (key script : String) : Store :=
  ⟨s.scripts.put key script⟩

/-- The file that a script is written to. -/
def scriptPath (directory : Path) (key extension : String) : Path :=
  directory.join (Path.ofString (key ++ "." ++ extension))

/-- Writes the script under a key to a directory; the answer is its path, or `none` when no script
    is kept under the key. -/
def write (s : Store) (t : FileTree) (key : String) (directory : Path) (extension : String) :
    Except DeskError (Option Path) × FileTree :=
  match s.get? key with
  | none => (.ok none, t)
  | some script =>
    let path := scriptPath directory key extension
    let (written, t') := t.replace path (Utf8.encode script)
    (written.map fun () => some path, t')

end Store

end RemoteDesk
