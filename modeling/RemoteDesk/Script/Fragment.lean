import RemoteDesk.Catalog

/-! # Fragments in a script

A subtask is a script fragment with an id. The id is called from the entry function and the fragment
follows the function, so an id must be a function name. A list of subtasks shows in a script twice,
as calls and as bodies, in the same order and under the same header lines.
-/

namespace RemoteDesk.Script

/-- The characters that a function name may start with. -/
def isIdStart (c : Char) : Bool :=
  c.isAlpha || c == '_'

/-- The characters that a function name may go on with. -/
def isIdPart (c : Char) : Bool :=
  c.isAlphanum || c == '_'

/-- A function name: an ASCII letter or `_`, then ASCII letters, digits and `_`. -/
def isSubtaskId (id : String) : Bool :=
  match id.toList with
  | [] => false
  | c :: rest => isIdStart c && rest.all isIdPart

/-- The line between subtasks. -/
def separatorLine : String := "; ############################################\n"

/-- What a header line starts with, before the id. -/
def headerStem : String := "; [!] Assigned Subtask Interaction >> "

/-- The line that names the parent of a fragment. -/
def parentLine : String := "; [!] Parent : RemoteDesktop \n"

def noteLine : String := "; [>] Assigned subtask function\n"

/-- The separator and the header line of a subtask. -/
def heading (id : String) : String :=
  "\n" ++ separatorLine ++ headerStem ++ id ++ "\n"

def callSite (id : String) : String :=
  heading id ++ id ++ "()\n" ++ noteLine

/-- The body of one subtask: its fragment, as it is, below a header. -/
def body (id fragment : String) : String :=
  heading id ++ parentLine ++ "\n" ++ noteLine ++ fragment

def callSites (subtasks : Catalog) : String :=
  String.join (subtasks.map fun s => callSite s.1)

/-- One body for each subtask, in order. -/
def bodies (subtasks : Catalog) : String :=
  String.join (subtasks.map fun s => body s.1 s.2)

end RemoteDesk.Script
