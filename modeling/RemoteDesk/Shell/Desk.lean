import RemoteDesk.Audit.Log
import RemoteDesk.Config
import RemoteDesk.Session
import RemoteDesk.Shell.Palette
import RemoteDesk.Text.Lowercase

/-! # The desk

The desk is everything that a command of the shell can see or change: the session and what it draws
on, the files, the operator, the output and the audit log. A command is an action on the desk. An
action that fails keeps what it changed before.
-/

namespace RemoteDesk

/-- Where messages go. A message is taken in whole or refused whole. -/
structure Sink where
  /-- Whether and why the next message is refused, given the number of messages before it, the text
      taken in so far and the message. -/
  refusal : Nat → String → String → Option String
  /-- The number of messages so far, refused ones included. -/
  tried : Nat
  /-- The text taken in so far. -/
  taken : String

namespace Sink

/-- Takes in everything. -/
def unlimited : Sink :=
  ⟨fun _ _ _ => none, 0, ""⟩

/-- Takes in at most `limit` bytes in all. -/
def limited (limit : Nat) : Sink :=
  ⟨fun _ taken text =>
    if taken.utf8ByteSize + text.utf8ByteSize ≤ limit then none else some "sink full", 0, ""⟩

/-- Hands a message over. -/
def write (s : Sink) (text : String) : Except DeskError Unit × Sink :=
  match s.refusal s.tried s.taken text with
  | none => (.ok (), { s with tried := s.tried + 1, taken := s.taken ++ text })
  | some cause => (.error (.output cause), { s with tried := s.tried + 1 })

end Sink

/-- A change of files that the disk breaks off: what it says, and the files as it leaves them. -/
structure DiskFault where
  message : String
  left : FileTree

/-- Everything that a command of the shell can see or change. -/
structure Desk where
  config : Config
  palette : Palette
  session : Session
  registry : Registry
  counter : Counter
  store : Store
  /-- The keys of the scripts that were written to the output directory. -/
  written : List String
  tree : FileTree
  /-- What the disk does to the next changes of files, in order: each is broken off or carried out.
      Those that the list does not reach are carried out. -/
  faults : List (Option DiskFault)
  operator : Operator
  sink : Sink
  /-- The time and the actor of the events that the next line causes. -/
  stamp : Audit.Stamp
  /-- The events that reached the audit log, in order. -/
  recorded : List Audit.Event

namespace Desk

def new (config : Config) (color : Bool) (tree : FileTree) (operator : Operator) (sink : Sink)
    (stamp : Audit.Stamp) : Desk where
  config := config
  palette := ⟨color⟩
  session := .new
  registry := .empty
  counter := ⟨config.firstTaskIndex⟩
  store := .empty
  written := []
  tree := tree
  faults := []
  operator := operator
  sink := sink
  stamp := stamp
  recorded := []

/-- What the operator sees before a line is typed. While a task is being authored, its key stands
    above. -/
def prompt (d : Desk) : String :=
  let base := d.palette.paint .yellow
    (Text.lowercase d.config.operatorName ++ " >: remotedesktop :> ")
  match d.session.activeIndex? with
  | some index => d.palette.paint .blue ("[*] " ++ Script.taskKey index) ++ "\n" ++ base
  | none => base

/-- Changes files, unless the disk breaks the change off. -/
def change {α : Type} (d : Desk) (f : FileTree → Except DeskError α × FileTree) :
    Except DeskError α × Desk :=
  match d.faults with
  | some fault :: later =>
    (.error (.reported .io fault.message), { d with tree := fault.left, faults := later })
  | faults =>
    let (result, tree) := f d.tree
    (result, { d with tree, faults := faults.tail })

/-- Adds a deed to the audit log, if there is one. An event that the log refuses is lost. -/
def record (d : Desk) (deed : Audit.Deed) : Desk :=
  match d.config.eventsFile with
  | none => d
  | some file =>
    let event : Audit.Event := ⟨d.stamp, deed⟩
    match d.change fun t => Audit.append t (Path.ofString file) event with
    | (.ok (), d') => { d' with recorded := d'.recorded ++ [event] }
    | (.error _, d') => d'

/-- An action on the desk that answers or fails. -/
abbrev Action (α : Type) := ExceptT DeskError (StateM Desk) α

namespace Action

def of {α : Type} (f : Desk → Except DeskError α × Desk) : Action α :=
  ExceptT.mk f

/-- What an action answers, and the desk it leaves. -/
def on {α : Type} (a : Action α) (d : Desk) : Except DeskError α × Desk :=
  ExceptT.run a d

/-- The answer or failure of an action, as an answer. -/
def outcome {α : Type} (a : Action α) : Action (Except DeskError α) :=
  .of fun d =>
    let (result, d') := a.on d
    (.ok result, d')

def look {α : Type} (f : Desk → α) : Action α :=
  .of fun d => (.ok (f d), d)

def emit (text : String) : Action Unit :=
  .of fun d =>
    let (result, sink) := d.sink.write text
    (result, { d with sink })

/-- Hands a line to the output, and then the line feed that ends it. -/
def emitLine (text : String) : Action Unit := do
  emit text
  emit "\n"

/-- Hands a line in a color to the output. -/
def emitPainted (color : Color) (text : String) : Action Unit := do
  emitLine (← look fun d => d.palette.paint color text)

def record (deed : Audit.Deed) : Action Unit :=
  .of fun d => (.ok (), d.record deed)

end Action

end Desk

end RemoteDesk
