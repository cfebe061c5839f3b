/-! # Arguments of the command line

What may be said on the command line. A parameter is followed by a value; a switch is not. Some are
known everywhere, others only to one command.
-/

namespace RemoteDesk.CommandLine

/-- Whose options are meant: those of the program itself or of one of its commands. -/
inductive Scope where
  | program
  | shell
  | compose
  | help
  deriving Repr, DecidableEq

/-- An option with a value. -/
inductive Parameter where
  | config
  | logLevel
  | profile
  | computer
  | username
  | password
  | index
  | subtask
  | subtaskDirectory
  | output
  deriving Repr, DecidableEq

namespace Parameter

def name : Parameter → String
  | .config => "config"
  | .logLevel => "log-level"
  | .profile => "profile"
  | .computer => "computer"
  | .username => "username"
  | .password => "password"
  | .index => "index"
  | .subtask => "subtask"
  | .subtaskDirectory => "subtask-dir"
  | .output => "output"

/-- What stands for the value in help texts. -/
def placeholder : Parameter → String
  | .config => "CONFIG"
  | .logLevel => "LOG_LEVEL"
  | .profile => "PROFILE"
  | .computer => "COMPUTER"
  | .username => "USERNAME"
  | .password => "PASSWORD"
  | .index => "INDEX"
  | .subtask => "ID=PATH"
  | .subtaskDirectory => "SUBTASK_DIR"
  | .output => "OUTPUT"

def summary : Parameter → String
  | .config => "Path to a YAML config file (default: ./deskscript.yaml if present)"
  | .logLevel => "Diagnostic filter (e.g. \"info\", \"deskscript=debug\")"
  | .profile => "YAML profile with computer, username, password, index and subtasks"
  | .computer => "Target computer (IP address or host name)"
  | .username => "Username typed into the connection dialog"
  | .password => "Password typed into the connection dialog"
  | .index => "Task index (default: config first_task_index)"
  | .subtask => "Subtask fragment as ID=PATH. Repeatable; order is kept"
  | .subtaskDirectory => "Directory of fragment files matching the config fragment_glob"
  | .output => "Write the script here instead of stdout"

/-- The value is a path, which may not be empty. -/
def isPath : Parameter → Bool
  | .config | .profile | .subtaskDirectory | .output => true
  | _ => false

def repeats : Parameter → Bool
  | .subtask => true
  | _ => false

end Parameter

/-- An option without a value. -/
inductive Switch where
  | verbose
  | noColor
  | help
  | version
  deriving Repr, DecidableEq

def Switch.name : Switch → String
  | .verbose => "verbose"
  | .noColor => "no-color"
  | .help => "help"
  | .version => "version"

/-- Anything that may be said with hyphens before it. -/
inductive Argument where
  | parameter (p : Parameter)
  | switch (s : Switch)
  deriving Repr, DecidableEq

namespace Argument

/-- The name of an argument, which stands behind two hyphens. -/
def name : Argument → String
  | .parameter p => p.name
  | .switch s => s.name

/-- The letter that may stand behind one hyphen instead. -/
def letter? : Argument → Option Char
  | .parameter .output => some 'o'
  | .switch .verbose => some 'v'
  | .switch .help => some 'h'
  | .switch .version => some 'V'
  | _ => none

def form : Argument → String
  | .parameter p => "--" ++ p.name ++ " <" ++ p.placeholder ++ ">"
  | .switch s => "--" ++ s.name

end Argument

/-- The arguments that are known, in the order in which they are listed. -/
def Scope.arguments : Scope → List Argument
  | .program | .shell =>
    [.parameter .config, .switch .verbose, .parameter .logLevel, .switch .noColor, .switch .help,
      .switch .version]
  | .compose =>
    [.parameter .config, .parameter .profile, .parameter .computer, .switch .verbose,
      .parameter .logLevel, .parameter .username, .switch .noColor, .parameter .password,
      .parameter .index, .parameter .subtask, .parameter .subtaskDirectory, .parameter .output,
      .switch .help, .switch .version]
  | .help => []

def Scope.named? (s : Scope) (name : String) : Option Argument :=
  s.arguments.find? (·.name = name)

def Scope.lettered? (s : Scope) (c : Char) : Option Argument :=
  s.arguments.find? (·.letter? = some c)

def Scope.name : Scope → String
  | .program => "deskscript"
  | .shell => "shell"
  | .compose => "compose"
  | .help => "help"

/-- The commands that may be given, in the order in which they are listed. -/
def Scope.commands : Scope → List Scope
  | .program => [.shell, .compose, .help]
  | _ => []

def Scope.command? (s : Scope) (word : String) : Option Scope :=
  s.commands.find? (·.name = word)

end RemoteDesk.CommandLine
