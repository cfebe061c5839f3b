import RemoteDesk.Shell.Command
import RemoteDesk.Shell.Desk

/-! # The shell

The shell reads lines and carries out the command on each. A failing command is reported and the shell
reads on; it ends at an exit command, at the end of input or when reading fails, and then prints
every finished script that was not written to the output directory.
-/

namespace RemoteDesk.Shell

open Desk Desk.Action

/-- Shown when the shell starts. -/
def introduction : String :=
  String.join (["----------------------------------",
    "[!] RemoteDesktop Interaction.",
    "Type help or ? to list commands.",
    "----------------------------------",
    "1: Start a new block using 'new'",
    "2: Assign subtasks using 'subtask'",
    "3: Complete the interaction using 'complete'"].map (· ++ "\n"))

/-- Whether the shell reads on. -/
inductive Flow where
  | goOn
  | leave
  deriving Repr, DecidableEq

/-! ## Commands -/

def startTask : Action Unit := do
  let index ← .of fun d =>
    let (result, session) := d.session.start d.counter
    (result.mapError SessionError.toDeskError, { d with session })
  let key := Script.taskKey index
  record ⟨.start, some key, .object []⟩
  emitLine ("[!] Starting : '" ++ key ++ "'\n")

/-- Credentials as the operator sees them. -/
def credentialLines (p : Palette) (c : Credentials) : String :=
  "[*] The target IP address is :   " ++ p.paint .green c.computer ++ "\n"
    ++ "[*] The Username is set to :     " ++ p.paint .green c.username ++ "\n"
    ++ "[*] The Pasword is set to :      " ++ p.paint .green c.password ++ "\n"

def showUnder (heading : String) (c : Credentials) : Action Unit := do
  emitLine heading
  emit (← look fun d => credentialLines d.palette c)

/-- The deed of giving the task of a session its credentials; the password is left out. -/
def credentialsDeed (s : Session) (overwrite : Bool) : Audit.Deed where
  action := .credentials
  task := s.taskKey?
  details := .ofFields [("computer", .string s.stored.computer),
    ("username", .string s.stored.username), ("overwrite", .bool overwrite)]

def captureCredentials : Action Unit := do
  let outcome ← .of fun d =>
    let (result, session, operator) := d.session.capture d.operator
    (result.mapError SessionError.toDeskError, { d with session, operator })
  if outcome ≠ .kept then
    record (credentialsDeed (← look (·.session)) (outcome = .overwritten))
  if outcome ≠ .captured then
    match ← look (·.session.shown?) with
    | some c => showUnder "[!] RemoteDesktop Details" c
    | none => pure ()

def showCredentials : Action Unit := do
  match ← look (·.session.shown?) with
  | some c => showUnder "[!] The following Remote Desktop configuration is in place" c
  | none => emitPainted .red "[!] There are currently no credentials assigned"

def subtaskDeed (id : String) (source : Path) : Audit.Deed where
  action := .subtaskAdd
  task := none
  details := .ofFields [("subtask", .string id), ("source", .string source.display)]

def announceSubtask (id : String) (source : Path) : Action Unit := do
  record (subtaskDeed id source)
  emitLine ("[+] Subtask '" ++ id ++ "' assigned")

def addSubtask (id : String) (path : Path) : Action Unit := do
  .of fun d =>
    match d.registry.loadFile d.tree id path with
    | .error e => (.error e, d)
    | .ok registry => (.ok (), { d with registry })
  announceSubtask id path

def announceAll (source : Path) : List String → Action Unit
  | [] => pure ()
  | id :: rest => do
    announceSubtask id source
    announceAll source rest

def addDirectory (directory : Path) : Action Unit := do
  let ids ← .of fun d =>
    let (result, registry) := d.registry.loadDirectory d.tree directory d.config.fragmentGlob
    (result, { d with registry })
  match ids with
  | [] =>
    let pattern ← look (·.config.fragmentGlob)
    emitPainted .yellow
      ("[!] No files matching '" ++ pattern ++ "' in " ++ directory.display)
  | ids => announceAll directory ids

def listing (heading : String) (names : List String) : String :=
  heading ++ "\n" ++ String.join (names.map fun name => "[>] " ++ name ++ "\n")

def listSubtasks : Action Unit := do
  emit (← look fun d =>
    listing (d.palette.paint .green "[?] Currently Assigned Commands ") d.registry.ids)

def completeDeed (task : CompletedTask) : Audit.Deed where
  action := .complete
  task := some task.script.key
  details := .ofFields [("subtasks", .ofStrings task.subtasks)]

/-- Writes a finished script to the output directory, if there is one; the answer is its path. -/
def writeScript (key : String) : Action (Option Path) :=
  .of fun d =>
    match d.config.outputDirectory with
    | none => (.ok none, d)
    | some directory =>
      let write (t : FileTree) :=
        d.store.write t key (Path.ofString directory) d.config.scriptExtension
      match d.change write with
      | (.ok (some path), d') => (.ok (some path), { d' with written := key :: d'.written })
      | (result, d') => (result, d')

/-- Makes the task a script. The next task gets the next index, whether or not the script can be
    written. -/
def completeTask : Action Unit := do
  let task ← .of fun d =>
    let (result, session, registry, store) :=
      d.session.complete d.registry d.store d.config.escapeCredentials
    match result with
    | .error e => (.error e.toDeskError, { d with session, registry, store })
    | .ok task => (.ok task, { d with session, registry, store, counter := d.counter.advance })
  record (completeDeed task)
  match ← writeScript task.script.key with
  | some path => emitLine ("[+] Wrote " ++ path.display)
  | none => pure ()
  emitPainted .green ("[+] Completed : '" ++ task.script.key ++ "'")

def discardTask : Action Unit := do
  let index ← .of fun d =>
    let (result, session) := d.session.discard
    (result.mapError SessionError.toDeskError, { d with session })
  let key := Script.taskKey index
  record ⟨.discard, some key, .object []⟩
  emitLine ("[!] Discarded : '" ++ key ++ "'")

def listTasks : Action Unit := do
  match ← look (·.store.keys) with
  | [] => emitLine "[!] No tasks have been completed"
  | keys => emit (← look fun d => listing (d.palette.paint .green "[?] Completed Tasks ") keys)

def execute : Command → Action Flow
  | .exit => pure .leave
  | command => do
    match command with
    | .new => startTask
    | .credentials => captureCredentials
    | .showCredentials => showCredentials
    | .subtask id path => addSubtask id (Path.ofString path)
    | .subtaskDir directory => addDirectory (Path.ofString directory)
    | .assigned => listSubtasks
    | .complete => completeTask
    | .discard => discardTask
    | .tasks => listTasks
    | .help => emit Command.helpText
    | .exit => pure ()
    | .unknown word =>
      emitPainted .yellow
        ("[!] Unknown command '" ++ word ++ "'. Type help or ? to list commands.")
    return .goOn

def handleLine (line : String) : Action Flow := do
  match ← .of fun d => (Command.parse line, d) with
  | some command => execute command
  | none => return .goOn

/-! ## The loop -/

/-- What reading a line brings. -/
inductive Reading where
  | line (text : String)
  | endOfInput
  | failed (cause : DeskError)
  deriving Repr, DecidableEq

def complain (e : DeskError) : Action Unit :=
  emitPainted .red ("[!] <ERROR> " ++ e.message)

/-- Deals with one reading; a failing command is reported. -/
def turn : Reading → Action Flow
  | .endOfInput => pure .leave
  | .failed e => do
    complain e
    return .leave
  | .line text => do
    match ← outcome (handleLine text) with
    | .ok flow => return flow
    | .error e =>
      complain e
      return .goOn

def emitAll : List String → Action Unit
  | [] => pure ()
  | script :: rest => do
    emit script
    emitAll rest

/-- The scripts that were not written to the output directory, in order. -/
def pending (d : Desk) : List String :=
  (d.store.keys.filter fun key => !d.written.contains key).filterMap d.store.get?

/-- Prints every script that was not written to the output directory. -/
def finish : Action Unit := do
  emitAll (← look pending)

/-- One reading and what came of it, up to the next. -/
structure Exchange where
  prompt : String
  reading : Reading
  /-- The questions that the operator was asked. -/
  asked : List String
  /-- The text that the output took in. -/
  output : String

def Exchange.between (before : Desk) (reading : Reading) (later : Desk) : Exchange where
  prompt := before.prompt
  reading := reading
  asked := later.operator.asked.drop before.operator.asked.length
  output := String.ofList (later.sink.taken.toList.drop before.sink.taken.toList.length)

/-- How a run of the shell went. -/
structure Transcript where
  /-- The text that the output took in before the first reading. -/
  introduction : String
  exchanges : List Exchange
  /-- The readings that the shell did not come to. -/
  unread : List Reading
  result : Except DeskError Unit
  desk : Desk

/-- Ends a run after its last reading. -/
def leave (before : Desk) (reading : Reading) (unread : List Reading) (later : Desk) : Transcript :=
  let (result, last) := finish.on later
  ⟨"", [.between before reading last], unread, result, last⟩

/-- Reads and deals with lines to the end. -/
def converse (d : Desk) : List Reading → Transcript
  | [] => leave d .endOfInput [] d
  | reading :: rest =>
    match (turn reading).on d with
    | (.ok .goOn, d') =>
      let later := converse d' rest
      { later with exchanges := .between d reading d' :: later.exchanges }
    | (.ok .leave, d') => leave d reading rest d'
    | (.error e, d') => ⟨"", [.between d reading d'], rest, .error e, d'⟩

/-- Runs the shell on a row of readings; the end of input follows them. -/
def run (d : Desk) (readings : List Reading) : Transcript :=
  match (emit introduction).on d with
  | (.ok (), d') => { converse d' readings with introduction := d'.sink.taken }
  | (.error e, d') => ⟨d'.sink.taken, [], readings, .error e, d'⟩

/-- Everything that a terminal shows of a run: prompts and output in order. -/
def Transcript.shown (t : Transcript) : String :=
  t.introduction ++ String.join (t.exchanges.map fun e => e.prompt ++ e.output)

/-- A typed line without the line end it came with. -/
def withoutLineEnd (line : String) : String :=
  String.ofList (line.toList.reverse.dropWhile (fun c => c == '\r' || c == '\n')).reverse

/-- The lines of an input, each with its line feed. -/
def inputLines : Bytes → List Bytes
  | [] => []
  | b :: rest =>
    if b = 0x0a then [b] :: inputLines rest
    else
      match inputLines rest with
      | [] => [[b]]
      | line :: others => (b :: line) :: others

/-- What reading an input line by line brings. A line that is no text cannot be read. -/
def readings (input : Bytes) : List Reading :=
  (inputLines input).map fun line =>
    match Utf8.decode? line with
    | some text => .line (withoutLineEnd text)
    | none => .failed (.unreadableCommand .notText)

end RemoteDesk.Shell
