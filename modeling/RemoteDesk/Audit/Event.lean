import RemoteDesk.Json.Source
import RemoteDesk.Timestamp

/-! # Audit events

An audit event says when and by whom something was done to a task. It is written as one line of
JSON with its fields in a fixed order, and read from an object with the fields in any order or from
an array of them in that order. No event ever carries a password.
-/

namespace RemoteDesk.Audit

/-- What was done. -/
inductive Action where
  | start
  | credentials
  | complete
  | discard
  | subtaskAdd
  deriving Repr, DecidableEq

def Action.name : Action → String
  | .start => "start"
  | .credentials => "credentials"
  | .complete => "complete"
  | .discard => "discard"
  | .subtaskAdd => "subtask_add"

def Action.ofName? (name : String) : Option Action :=
  [Action.start, .credentials, .complete, .discard, .subtaskAdd].find? (·.name = name)

/-- When and by whom. -/
structure Stamp where
  time : Timestamp
  actor : String
  deriving Repr, DecidableEq

/-- What was done to which task. -/
structure Deed where
  action : Action
  /-- The key of the task, where the action is about one. -/
  task : Option String
  /-- Whatever else is to be known. -/
  details : Json

/-- An entry of the audit log. -/
structure Event where
  stamp : Stamp
  deed : Deed

namespace Event

/-! ## Writing -/

/-- The line of an event, without its line feed. -/
def print (e : Event) : List Char :=
  let quoted := Json.printString
  let task :=
    match e.deed.task with
    | none => []
    | some key => ',' :: quoted "task" ++ ':' :: quoted key
  '\x7b' :: quoted "ts" ++ ':' :: quoted (String.ofList e.stamp.time.print)
    ++ ',' :: quoted "action" ++ ':' :: quoted e.deed.action.name
    ++ ',' :: quoted "actor" ++ ':' :: quoted e.stamp.actor
    ++ task
    ++ ',' :: quoted "details" ++ ':' :: e.deed.details.print ++ ['\x7d']

def line (e : Event) : String :=
  String.ofList e.print

/-! ## Reading -/

/-- The fields read so far; a field that may be left out or null is present once it was seen. -/
structure Partial where
  time : Option Timestamp := none
  action : Option Action := none
  actor : Option String := none
  task : Option (Option String) := none
  details : Option Json := none

/-- How deep the details may be nested; the event around them counts as one level. -/
def depth : Nat := 127

def readText : Json.Source → Option String
  | .string letters => Json.Source.text? letters
  | _ => none

def readTime (s : Json.Source) : Option Timestamp :=
  (readText s).bind Timestamp.parse

/-- An action: its name, or an object whose only field has that name and nothing in it. -/
def readAction : Json.Source → Option Action
  | .string letters => (Json.Source.text? letters).bind Action.ofName?
  | .object [(name, .null)] => (Json.Source.text? name).bind Action.ofName?
  | _ => none

def readTask : Json.Source → Option (Option String)
  | .null => some none
  | s => (readText s).map some

/-- Takes in one field. A field that is known may not come twice, and one that is not known is
    passed over unread. -/
def Partial.take (p : Partial) (name : String) (s : Json.Source) : Option Partial :=
  if name = "ts" then
    if p.time.isSome then none else (readTime s).map fun x => { p with time := some x }
  else if name = "action" then
    if p.action.isSome then none else (readAction s).map fun x => { p with action := some x }
  else if name = "actor" then
    if p.actor.isSome then none else (readText s).map fun x => { p with actor := some x }
  else if name = "task" then
    if p.task.isSome then none else (readTask s).map fun x => { p with task := some x }
  else if name = "details" then
    if p.details.isSome then none
    else (Json.Source.value depth s).map fun x => { p with details := some x }
  else some p

def Partial.takeAll (p : Partial) : List (List Json.Letter × Json.Source) → Option Partial
  | [] => some p
  | (name, s) :: rest => do
    let name ← Json.Source.text? name
    let p ← p.take name s
    p.takeAll rest

def Partial.event? (p : Partial) : Option Event := do
  let time ← p.time
  let action ← p.action
  let actor ← p.actor
  let details ← p.details
  return ⟨⟨time, actor⟩, ⟨action, p.task.getD none, details⟩⟩

def parse (text : String) : Option Event := do
  match ← Json.Source.parse text with
  | .object fields => (← ({} : Partial).takeAll fields).event?
  | .array [time, action, actor, task, details] =>
    return ⟨⟨← readTime time, ← readText actor⟩,
      ⟨← readAction action, ← readTask task, ← Json.Source.value depth details⟩⟩
  | _ => none

end Event

end RemoteDesk.Audit
