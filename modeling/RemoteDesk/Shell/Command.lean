import RemoteDesk.Error
import RemoteDesk.Text.Words

/-! # Shell commands

A typed line names a command and its arguments. A blank line is no command; a word that names none is
kept, so that the shell can say so; a command with the wrong arguments is an error.
-/

namespace RemoteDesk

/-- What a line asks the shell to do. -/
inductive Command where
  | new
  | credentials
  | showCredentials
  /-- Attach the fragment in a file under an id. -/
  | subtask (id path : String)
  | subtaskDir (directory : String)
  | assigned
  | complete
  | discard
  | tasks
  | help
  | exit
  | unknown (word : String)
  deriving Repr, DecidableEq

namespace Command

def alone (name : String) (arguments : List String) (command : Command) :
    Except DeskError Command :=
  if arguments = [] then .ok command
  else .error (.unexpectedArguments name arguments.length)

/-- The command that a first word and its arguments stand for. -/
def ofWords (name : String) (arguments : List String) : Except DeskError Command :=
  if name = "new" then alone name arguments .new
  else if name = "credentials" then alone name arguments .credentials
  else if name = "show_credentials" then alone name arguments .showCredentials
  else if name = "subtask" then
    match arguments with
    | [id, path] => .ok (.subtask id path)
    | _ => .error (.usage "subtask <id> <file>")
  else if name = "subtask-dir" then
    match arguments with
    | [directory] => .ok (.subtaskDir directory)
    | _ => .error (.usage "subtask-dir <dir>")
  else if name = "assigned" then .ok .assigned
  else if name = "complete" then alone name arguments .complete
  else if name = "discard" then alone name arguments .discard
  else if name = "tasks" then .ok .tasks
  else if name = "help" ∨ name = "?" then .ok .help
  else if name = "exit" ∨ name = "quit" ∨ name = "back" then .ok .exit
  else .ok (.unknown name)

/-- The command on a line; a blank line has none. -/
def parse (line : String) : Except DeskError (Option Command) :=
  match Words.split line with
  | none => .error (.unclosedQuote line)
  | some [] => .ok none
  | some (name :: arguments) =>
    match ofWords name arguments with
    | .error e => .error e
    | .ok command => .ok (some command)

def helpText : String :=
  String.join (["Commands",
    "  new                    start a new RemoteDesktop task",
    "  credentials            enter computer, username and password",
    "  show_credentials       show the stored credentials",
    "  subtask <id> <file>    attach an AutoIt fragment as a subtask",
    "  subtask-dir <dir>      attach every matching fragment in a directory",
    "  assigned               list attached subtasks",
    "  complete               compile the task into a script",
    "  discard                abandon the running task",
    "  tasks                  list compiled scripts",
    "  help, ?                show this help",
    "  exit, quit, back       leave the shell"].map (· ++ "\n"))

end Command

end RemoteDesk
