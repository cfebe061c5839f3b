import RemoteDesk.CommandLine
import RemoteDesk.Disk

/-! # The program

Connects a run of the program to the disk, the terminal and the environment. Questions are asked on a
terminal only; a step that comes to a question is done again with the answer, from where it started.
-/

namespace RemoteDesk.Program

open CommandLine

/-! ## Looking ahead -/

/-- The files that the configuration may come from. -/
def configPaths (a : Arguments) (directory : Path) : List Path :=
  match a.config with
  | some path => [Path.ofString path]
  | none => [directory.join (Path.ofString Config.fileName)]

/-- A file that may be replaced, with the sibling that is used for that. -/
def replaced (p : Path) : List Path :=
  p :: (FileTree.temporarySibling? p).toList

def logPaths (config : Config) : List Path :=
  config.eventsFile.toList.map Path.ofString

/-- The files that composing may read or write, with what a tree says of the profile. -/
def composePaths (config : Config) (r : ComposeRequest) (output : Option String) (t : FileTree) :
    List Path :=
  let fromProfile :=
    match r.loadProfile t with
    | .ok (p, base) => (p.subtaskFiles base).toOption.getD []
    | .error _ => []
  let fromWords := r.subtasks.filterMap fun word => (ComposeRequest.splitSubtask word).toOption
  logPaths config ++ (fromProfile ++ fromWords).map (·.2)
    ++ output.toList.flatMap fun name => replaced (Path.ofString name)

def treeForCompose (config : Config) (r : ComposeRequest) (output : Option String) :
    IO FileTree := do
  let tree ← Disk.lookAll (← Disk.bareTree) (r.profile.toList.map Path.ofString)
  let tree ← Disk.lookAll tree (composePaths config r output tree)
  match r.subtaskDirectory with
  | some directory => Disk.lookInside tree (Path.ofString directory)
  | none => return tree

/-- The tree that a line of the shell works on. -/
def treeForLine (d : Desk) (line : String) : IO FileTree := do
  let tree ← Disk.lookAll (← Disk.bareTree) (logPaths d.config)
  match Command.parse line with
  | .ok (some (.subtask _ path)) => Disk.look tree (Path.ofString path)
  | .ok (some (.subtaskDir directory)) => Disk.lookInside tree (Path.ofString directory)
  | .ok (some .complete) =>
    match d.config.outputDirectory, d.session.taskKey? with
    | some directory, some key =>
      Disk.lookAll tree
        (replaced (Store.scriptPath (Path.ofString directory) key d.config.scriptExtension))
    | _, _ => return tree
  | _ => return tree

/-! ## The terminal -/

partial def readLineBytes (input : IO.FS.Stream) : IO Bytes := do
  let some b := (← input.read 1).toList.head? | return []
  if b = 0x0a then return [b] else return b :: (← readLineBytes input)

/-- What reading one line brings. -/
def readCommand (input : IO.FS.Stream) : IO Shell.Reading := do
  return ((Shell.readings (← readLineBytes input)).head?).getD .endOfInput

def ask (question : String) : IO String := do
  let output ← IO.getStdout
  output.putStr (question ++ ": ")
  output.flush
  let answer ← readLineBytes (← IO.getStdin)
  return Shell.withoutLineEnd (Utf8.decodeLossy answer)

/-- Does a step with the answers so far, and asks for one more as long as one is missing. -/
partial def withAnswers {α : Type} (isTerminal : Bool) (inputs : List String) (confirms : List Bool)
    (step : Operator → α × Operator) : IO α := do
  if !isTerminal then return (step .unreachable).1
  let (result, operator) := step (.scripted (inputs.map .ok) (confirms.map .ok))
  match operator.asked.drop (inputs.length + confirms.length) with
  | [] => return result
  | question :: _ =>
    let answer ← ask question
    if question = Session.overwriteQuestion then
      withAnswers isTerminal inputs (confirms ++ [["y", "Y", "yes"].contains answer]) step
    else withAnswers isTerminal (inputs ++ [answer]) confirms step

/-! ## Running -/

/-- Prints an outcome; the answer is the exit code. -/
def report (o : Outcome) : IO UInt32 := do
  let output ← IO.getStdout
  output.putStr o.output
  output.flush
  if let some complaint := o.complaint then IO.eprintln complaint
  return UInt32.ofNat o.exitCode

/-- One reading on a desk with the files as they are now. -/
def turn (isTerminal : Bool) (d : Desk) (reading : Shell.Reading) :
    IO (Except DeskError Shell.Flow × Desk) := do
  let tree ←
    match reading with
    | .line text => treeForLine d text
    | _ => Disk.bareTree
  let stamp : Audit.Stamp := ⟨← Disk.now, ← Disk.actor⟩
  let (result, later) ← withAnswers isTerminal [] [] fun operator =>
    let (result, later) :=
      (Shell.turn reading).on { d with tree, stamp, operator := { operator with asked := [] } }
    ((result, later), later.operator)
  Disk.commit tree later.tree
  return (result, later)

/-- Prints what the output took in since an earlier desk. -/
def flush (before later : Desk) : IO Unit := do
  let output ← IO.getStdout
  output.putStr (String.ofList (later.sink.taken.toList.drop before.sink.taken.length))
  output.flush

/-- Reads lines and deals with them to the end; the answer is the exit code. -/
partial def converse (isTerminal : Bool) (d : Desk) : IO UInt32 := do
  let output ← IO.getStdout
  output.putStr d.prompt
  output.flush
  let (result, later) ← turn isTerminal d (← readCommand (← IO.getStdin))
  flush d later
  match result with
  | .error e => report (.of "" later.tree (.error e))
  | .ok .goOn => converse isTerminal later
  | .ok .leave =>
    let (result, last) := Shell.finish.on later
    flush later last
    report (.of "" last.tree result)

/-- Does a job; the answer is the exit code. -/
def perform (s : Surroundings) : Job → IO UInt32
  | .shell config color => do
    let desk := s.desk config color
    let (result, started) := (Desk.Action.emit Shell.introduction).on desk
    flush desk started
    match result with
    | .error e => report (.of "" s.tree (.error e))
    | .ok () => converse (← (← IO.getStdin).isTty) started
  | .compose config request output => do
    let tree ← treeForCompose config request output
    let outcome := (Job.compose config request output).run { s with tree }
    Disk.commit tree outcome.tree
    report outcome

/-- Runs the program; the answer is the exit code. -/
def start (words : List String) : IO UInt32 := do
  let bare ← Disk.bareTree
  match Arguments.parse words with
  | .error halt => report (halt.outcome bare)
  | .ok a =>
    let directory ← Disk.workingDirectory
    let s : Surroundings := {
      tree := ← Disk.lookAll bare (configPaths a directory)
      directory
      filter := ← IO.getEnv "DESKSCRIPT_LOG"
      readings := []
      operator := .unreachable
      stamp := ⟨← Disk.now, ← Disk.actor⟩ }
    match a.job s with
    | .error e => report (.of "" s.tree (.error e))
    | .ok job => perform s job

end RemoteDesk.Program

def main (words : List String) : IO UInt32 :=
  RemoteDesk.Program.start words
