import RemoteDesk.CommandLine.Arguments
import RemoteDesk.CommandLine.Filter
import RemoteDesk.CommandLine.Help
import RemoteDesk.Config.Document
import RemoteDesk.Shell

/-! # Runs of the program

A run reads its arguments, makes sure that diagnostics can be filtered, finds its configuration and
then holds the shell or composes one task.
-/

namespace RemoteDesk.CommandLine

/-- What a run finds around it. -/
structure Surroundings where
  tree : FileTree
  /-- The directory that the program was started in. -/
  directory : Path
  /-- The filter for diagnostics that the environment names. -/
  filter : Option String
  /-- What reading the input brings. -/
  readings : List Shell.Reading
  operator : Operator
  stamp : Audit.Stamp

/-- What a run leaves. -/
structure Outcome where
  exitCode : Nat
  output : String
  /-- What a run that fails says of it. -/
  complaint : Option String
  tree : FileTree

inductive Job where
  /-- Hold the shell, with colors or without. -/
  | shell (config : Config) (color : Bool)
  | compose (config : Config) (request : ComposeRequest) (output : Option String)

def Arguments.job (a : Arguments) (s : Surroundings) : Except DeskError Job := do
  Filter.choose s.filter a.logLevel a.verbose
  let config ← Config.resolve s.tree (a.config.map Path.ofString) s.directory
  match a.task with
  | some (.compose request output) => return .compose config request output
  | _ => return .shell config (config.color && !a.noColor)

def Surroundings.desk (s : Surroundings) (config : Config) (color : Bool) : Desk :=
  .new config color s.tree s.operator .unlimited s.stamp

def errorLine (e : DeskError) : String :=
  "Error: " ++ e.message

/-- The outcome of a run that gave `output` before it ended. -/
def Outcome.of (output : String) (tree : FileTree) : Except DeskError Unit → Outcome
  | .ok () => ⟨0, output, none, tree⟩
  | .error e => ⟨e.exitCode, output, some (errorLine e), tree⟩

def Job.run (s : Surroundings) : Job → Outcome
  | .shell config color =>
    let transcript := Shell.run (s.desk config color) s.readings
    .of transcript.shown transcript.desk.tree transcript.result
  | .compose config request output =>
    match request.deliver config s.tree s.stamp output with
    | (.ok text, tree) => .of text tree (.ok ())
    | (.error e, tree) => .of "" tree (.error e)

/-- The outcome of a run that ends before there is a job. -/
def Halt.outcome (tree : FileTree) (h : Halt) : Outcome :=
  match h with
  | .help scope full => ⟨h.exitCode, Help.text scope full, none, tree⟩
  | .version scope => ⟨h.exitCode, scope.versionText, none, tree⟩
  | .mistake m => ⟨h.exitCode, "", some ("error: " ++ m.message), tree⟩

def run (words : List String) (s : Surroundings) : Outcome :=
  match Arguments.parse words with
  | .error halt => halt.outcome s.tree
  | .ok a =>
    match a.job s with
    | .error e => .of "" s.tree (.error e)
    | .ok job => job.run s

end RemoteDesk.CommandLine
