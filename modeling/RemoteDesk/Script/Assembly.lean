import RemoteDesk.Script.Fragment
import RemoteDesk.Script.Connection
import RemoteDesk.Script.Typing

/-! # Assembling a script

The parts of a script stand in a fixed order: the declaration, the opening of the connection, the
calls of the subtasks, the closing of the connection and the bodies of the subtasks.
-/

namespace RemoteDesk

/-- What is typed into the connection dialog. -/
structure Credentials where
  computer : String
  username : String
  password : String
  deriving Repr, DecidableEq, Inhabited

namespace Credentials

/-- No value has been given. -/
def none : Credentials := ⟨"", "", ""⟩

def map (f : String → String) (c : Credentials) : Credentials :=
  ⟨f c.computer, f c.username, f c.password⟩

end Credentials

/-- A finished script and the key of its task. -/
structure Script where
  key : String
  text : String
  deriving Repr, DecidableEq

namespace Script

/-- The calls of the subtasks as they stand inside the entry function. -/
def callSection (subtasks : Catalog) : String :=
  Text.indent (callSites subtasks) callMargin

/-- The script of task `index`. With `escaped`, each credential is typed literally. -/
def assemble (index : UInt32) (credentials : Credentials) (subtasks : Catalog) (escaped : Bool) :
    Script :=
  let typed := if escaped then credentials.map escape else credentials
  { key := taskKey index
    text := declaration index
      ++ openSequence index typed.computer typed.username typed.password
      ++ callSection subtasks ++ closeSequence ++ bodies subtasks }

end Script

end RemoteDesk
