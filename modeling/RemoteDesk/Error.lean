import RemoteDesk.Glob
import RemoteDesk.OsError
import RemoteDesk.Path
import RemoteDesk.Yaml.Fault

/-! # Errors

Whatever can go wrong, as a cause. A cause belongs to one of four kinds; the kind fixes the exit code
and how the message starts, and the cause fixes the rest of the message.
-/

namespace RemoteDesk

inductive ErrorKind where
  /-- A wrong argument, a bad subtask or an operation in the wrong state. -/
  | user
  /-- A configuration or profile that cannot be used. -/
  | config
  /-- A file or the output that refused an operation. -/
  | io
  /-- A question that got no answer. -/
  | prompt
  deriving Repr, DecidableEq

/-- The exit code of a run that ends in an error. -/
def ErrorKind.exitCode : ErrorKind → Nat
  | .user => 1
  | .config => 2
  | .io => 3
  | .prompt => 3

/-- How a message starts. -/
def ErrorKind.heading : ErrorKind → String
  | .user => ""
  | .config => "Configuration error: "
  | .io => "I/O error: "
  | .prompt => "Prompt failed: "

/-- Why a session refuses an operation in its present state. -/
inductive Refusal where
  | alreadyRunning (index : UInt32)
  | notStarted
  | credentialsMissing
  deriving Repr, DecidableEq

def Refusal.message : Refusal → String
  | .alreadyRunning index =>
    "task RemoteDesktop_" ++ Nat.repr index.toNat
      ++ " is already running; complete or discard it first"
  | .notStarted => "no RemoteDesktop task is running; start one with 'new'"
  | .credentialsMissing => "credentials must be assigned before the task can be completed"

inductive DeskError where
  /-- A failure that came with its own wording, from a prompt or a reader. -/
  | reported (kind : ErrorKind) (text : String)
  | refused (refusal : Refusal)
  | invalidSubtaskId (id : String)
  | unreadableFragment (path : Path) (cause : OsError)
  | unreadableDirectory (path : Path) (cause : OsError)
  | fragmentNameNotText (path : Path)
  /-- A typed line with a quote that is never closed. -/
  | unclosedQuote (line : String)
  | unexpectedArguments (command : String) (count : Nat)
  | usage (form : String)
  | zeroTaskIndex
  | noComputer
  | malformedSubtaskArgument (argument : String)
  /-- The pattern of a directory command cannot be read. -/
  | invalidPattern (pattern : String) (cause : Glob.Fault)
  | unreadableConfig (path : Path) (cause : OsError)
  | malformedConfig (cause : Yaml.Fault)
  | zeroFirstIndex
  | blankOperatorName
  | emptyExtension
  /-- A script extension that starts with a dot, and the extension without leading dots. -/
  | dottedExtension (given bare : String)
  | invalidFragmentGlob (pattern : String) (cause : Glob.Fault)
  | unreadableProfile (path : Path) (cause : OsError)
  | malformedProfile (cause : Yaml.Fault)
  /-- A subtask id of a profile that is no string, as it shows. -/
  | subtaskIdNotText (shown : String)
  /-- A subtask of a profile whose file is no string. -/
  | subtaskWithoutPath (id : String)
  | invalidLogLevel (level reason : String)
  | parentDirectory (path : Path) (cause : OsError)
  | invalidFilePath
  | temporaryFile (path : Path) (cause : OsError)
  | replaceFile (path : Path) (cause : OsError)
  /-- The output refused a message. -/
  | output (cause : String)
  | eventsDirectory (path : Path) (cause : OsError)
  | eventsFile (path : Path) (cause : OsError)
  /-- A line of input that is no text. -/
  | unreadableCommand (cause : OsError)
  deriving Repr, DecidableEq

namespace DeskError

/-- The kind that a cause belongs to. -/
def kind : DeskError → ErrorKind
  | .reported kind _ => kind
  | .refused _ | .invalidSubtaskId _ | .unreadableFragment .. | .unreadableDirectory ..
  | .fragmentNameNotText _ | .unclosedQuote _ | .unexpectedArguments .. | .usage _
  | .zeroTaskIndex | .noComputer | .malformedSubtaskArgument _ => .user
  | .invalidPattern .. | .unreadableConfig .. | .malformedConfig _ | .zeroFirstIndex
  | .blankOperatorName | .emptyExtension | .dottedExtension .. | .invalidFragmentGlob ..
  | .unreadableProfile .. | .malformedProfile _ | .subtaskIdNotText _ | .subtaskWithoutPath _
  | .invalidLogLevel .. => .config
  | .parentDirectory .. | .invalidFilePath | .temporaryFile .. | .replaceFile .. | .output _
  | .eventsDirectory .. | .eventsFile .. => .io
  | .unreadableCommand _ => .prompt

/-- Says that an operation on a path failed, and why. -/
def about (what : String) (path : Path) (cause : OsError) : String :=
  what ++ " '" ++ path.display ++ "': " ++ cause.message

def globText (pattern : String) (cause : Glob.Fault) : String :=
  "error parsing glob '" ++ pattern ++ "': " ++ cause.message

def text : DeskError → String
  | .reported _ text => text
  | .refused refusal => refusal.message
  | .invalidSubtaskId id =>
    "invalid subtask id '" ++ id
      ++ "': must start with a letter or '_' and contain only letters, digits and '_'"
  | .unreadableFragment path cause => about "failed to read subtask fragment" path cause
  | .unreadableDirectory path cause => about "failed to read subtask directory" path cause
  | .fragmentNameNotText path => "invalid fragment file name: " ++ path.display
  | .unclosedQuote line => "could not parse '" ++ line ++ "': missing closing quote"
  | .unexpectedArguments command count =>
    "'" ++ command ++ "' takes no arguments (got " ++ Nat.repr count ++ ")"
  | .usage form => "usage: " ++ form
  | .zeroTaskIndex => "task index must be greater than 0"
  | .noComputer =>
    "no target computer given; pass --computer or set 'computer' in the profile"
  | .malformedSubtaskArgument argument =>
    "invalid --subtask '" ++ argument ++ "': expected ID=PATH"
  | .invalidPattern pattern cause =>
    "invalid fragment pattern '" ++ pattern ++ "': " ++ globText pattern cause
  | .unreadableConfig path cause => about "failed to read config file" path cause
  | .malformedConfig cause => "failed to parse config YAML: " ++ cause.message
  | .zeroFirstIndex => "first_task_index must be greater than 0"
  | .blankOperatorName => "operator_name must be non-empty"
  | .emptyExtension => "script_extension must be non-empty"
  | .dottedExtension given bare =>
    "script_extension must not have a leading dot (found '" ++ given ++ "'). Use '" ++ bare
      ++ "' instead."
  | .invalidFragmentGlob pattern cause =>
    "fragment_glob '" ++ pattern ++ "' is not a valid glob: " ++ globText pattern cause
  | .unreadableProfile path cause => about "failed to read profile" path cause
  | .malformedProfile cause => "failed to parse profile YAML: " ++ cause.message
  | .subtaskIdNotText shown => "profile subtask id must be a string: " ++ shown
  | .subtaskWithoutPath id => "profile subtask '" ++ id ++ "' must map to a file path"
  | .invalidLogLevel level reason => "invalid log level '" ++ level ++ "': " ++ reason
  | .parentDirectory path cause => about "failed to create parent directory" path cause
  | .invalidFilePath => "invalid file path"
  | .temporaryFile path cause => about "failed to create temporary file" path cause
  | .replaceFile path cause => about "failed to atomically replace" path cause
  | .output cause => "failed to write output: " ++ cause
  | .eventsDirectory path cause => about "failed to create events directory" path cause
  | .eventsFile path cause => about "failed to open events file" path cause
  | .unreadableCommand cause => "failed to read command: " ++ cause.message

def message (e : DeskError) : String :=
  e.kind.heading ++ e.text

/-- The exit code of a run that ends in the error. -/
def exitCode (e : DeskError) : Nat :=
  e.kind.exitCode

end DeskError

/-- Why an operation of a session failed. -/
inductive SessionError where
  | refused (refusal : Refusal)
  | prompt (cause : DeskError)
  deriving Repr, DecidableEq

namespace SessionError

/-- The error that a host reports. -/
def toDeskError : SessionError → DeskError
  | .refused refusal => .refused refusal
  | .prompt cause => cause

def message (e : SessionError) : String :=
  e.toDeskError.message

end SessionError

end RemoteDesk
