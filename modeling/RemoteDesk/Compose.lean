import RemoteDesk.Audit.Log
import RemoteDesk.Config
import RemoteDesk.Profile
import RemoteDesk.Session

/-! # Composing a task without questions

A whole task is authored at once: what the operator would be asked is known from a request and from
the profile that it may name. What the request says itself wins over the profile; its subtasks come
after those of the profile.
-/

namespace RemoteDesk

/-- What is asked for. Paths are as typed. -/
structure ComposeRequest where
  profile : Option String
  computer : Option String
  username : Option String
  password : Option String
  index : Option UInt32
  /-- Ids and files, each as one word. -/
  subtasks : List String
  subtaskDirectory : Option String
  deriving Repr, DecidableEq

namespace ComposeRequest

def empty : ComposeRequest := ⟨none, none, none, none, none, [], none⟩

/-- The profile of a request, and the directory that its paths start from. -/
def loadProfile (r : ComposeRequest) (t : FileTree) : Except DeskError (Profile × Path) :=
  match r.profile with
  | none => .ok (.empty, .empty)
  | some text => do
    let path := Path.ofString text
    let profile ← Profile.load t path
    return (profile, path.parent?.getD .empty)

/-- The index of the task, which is not zero. -/
def taskIndex (r : ComposeRequest) (p : Profile) (c : Config) : Except DeskError UInt32 :=
  let index := (r.index <|> p.index).getD c.firstTaskIndex
  if index = 0 then .error .zeroTaskIndex else .ok index

/-- The credentials of the task. Only the computer must be given. -/
def credentials (r : ComposeRequest) (p : Profile) : Except DeskError Credentials :=
  match r.computer <|> p.computer with
  | none => .error .noComputer
  | some computer =>
    .ok ⟨computer, (r.username <|> p.username).getD "", (r.password <|> p.password).getD ""⟩

/-- The id and the file in a word: what stands before and after its first equals sign. -/
def splitSubtask (word : String) : Except DeskError (String × Path) :=
  let id := word.toList.takeWhile (· ≠ '=')
  match id, word.toList.dropWhile (· ≠ '=') with
  | _ :: _, _ :: c :: path => .ok (String.ofList id, Path.ofString (String.ofList (c :: path)))
  | _, _ => .error (.malformedSubtaskArgument word)

def addFiles (t : FileTree) (g : Registry) (files : List (String × Path)) :
    Except DeskError Registry :=
  files.foldlM (fun g (id, path) => g.loadFile t id path) g

def addWords (t : FileTree) (g : Registry) (words : List String) : Except DeskError Registry :=
  words.foldlM
    (fun g word => do
      let (id, path) ← splitSubtask word
      g.loadFile t id path) g

/-- The subtasks: those of the profile, those of the directory and those of the request. -/
def registry (r : ComposeRequest) (t : FileTree) (p : Profile) (base : Path) (pattern : String) :
    Except DeskError Registry := do
  let g ← addFiles t .empty (← p.subtaskFiles base)
  let g ←
    match r.subtaskDirectory with
    | none => pure g
    | some directory =>
      let (loaded, g) := g.loadDirectory t (Path.ofString directory) pattern
      loaded.map fun _ => g
  addWords t g r.subtasks

/-- Authors a task in a session of its own, where the operator is given the answers. -/
def author (index : UInt32) (c : Credentials) (g : Registry) (escaped : Bool) :
    Except SessionError CompletedTask := do
  let (started, session) := Session.new.start ⟨index⟩
  let _ ← started
  let (captured, session, _) :=
    session.capture (.scripted [.ok c.computer, .ok c.username, .ok c.password] [])
  let _ ← captured
  (session.complete g Store.empty escaped).1

/-- The task that a request asks for. -/
def compose (r : ComposeRequest) (config : Config) (t : FileTree) :
    Except DeskError CompletedTask := do
  let (profile, base) ← r.loadProfile t
  let index ← r.taskIndex profile config
  let credentials ← r.credentials profile
  let registry ← r.registry t profile base config.fragmentGlob
  (author index credentials registry config.escapeCredentials).mapError SessionError.toDeskError

def deed (task : CompletedTask) : Audit.Deed where
  action := .complete
  task := some task.script.key
  details := .ofFields [("subtasks", .ofStrings task.subtasks), ("mode", .string "compose")]

/-- Adds the deed to the audit log, if there is one. An event that the log refuses is lost. -/
def note (config : Config) (t : FileTree) (stamp : Audit.Stamp) (task : CompletedTask) : FileTree :=
  match config.eventsFile with
  | none => t
  | some file => (Audit.append t (Path.ofString file) ⟨stamp, deed task⟩).2

def run (r : ComposeRequest) (config : Config) (t : FileTree) (stamp : Audit.Stamp) :
    Except DeskError CompletedTask × FileTree :=
  match r.compose config t with
  | .error e => (.error e, t)
  | .ok task => (.ok task, note config t stamp task)

/-- Composes a task and delivers its script: into a file if one is named, or else as the output. The
    answer is the output. -/
def deliver (r : ComposeRequest) (config : Config) (t : FileTree) (stamp : Audit.Stamp)
    (file : Option String) : Except DeskError String × FileTree :=
  match r.run config t stamp with
  | (.error e, t') => (.error e, t')
  | (.ok task, t') =>
    match file with
    | none => (.ok task.script.text, t')
    | some name =>
      let path := Path.ofString name
      let (replaced, t'') := t'.replace path (Utf8.encode task.script.text)
      (replaced.map fun () => "Wrote " ++ task.script.key ++ " to " ++ path.display ++ "\n", t'')

end ComposeRequest

end RemoteDesk
