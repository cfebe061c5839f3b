import RemoteDesk.Operator
import RemoteDesk.Registry
import RemoteDesk.Script.Assembly
import RemoteDesk.Store

/-! # Sessions

A session authors one task at a time: it is started, gets its credentials, possibly more than once,
and is then completed into a script or discarded. A refused operation changes nothing.
-/

namespace RemoteDesk

/-- Where a session is in the life of a task. -/
inductive Phase where
  | idle
  | started
  | credentialsAssigned
  | completed
  | discarded
  deriving Repr, DecidableEq

namespace Phase

/-- A task is being authored. -/
def isActive : Phase → Bool
  | .started | .credentialsAssigned => true
  | .idle | .completed | .discarded => false

def name : Phase → String
  | .idle => "idle"
  | .started => "started"
  | .credentialsAssigned => "credentials_assigned"
  | .completed => "completed"
  | .discarded => "discarded"

end Phase

/-- The counter that gives tasks their index. -/
structure Counter where
  value : UInt32
  deriving Repr, DecidableEq

/-- The next index; the greatest one is never passed. -/
def Counter.advance (c : Counter) : Counter :=
  if c.value = 4294967295 then c else ⟨c.value + 1⟩

/-- The task being authored, and what is known of it. -/
structure Session where
  phase : Phase
  taskIndex : Option UInt32
  /-- The credentials given last; all three are empty while none are assigned. -/
  stored : Credentials
  assigned : Bool
  deriving Repr, DecidableEq

/-- What a capture of credentials did. -/
inductive CaptureOutcome where
  /-- The task got its first credentials. -/
  | captured
  /-- New credentials took the place of older ones. -/
  | overwritten
  /-- The older credentials stay, as the operator wished. -/
  | kept
  deriving Repr, DecidableEq

def CaptureOutcome.name : CaptureOutcome → String
  | .captured => "Captured"
  | .overwritten => "Overwritten"
  | .kept => "Kept"

/-- Where the script of each finished task goes, under the key of the task. -/
class TaskSink (σ : Type) where
  /-- Takes one script. -/
  add : σ → String → String → σ

/-- A store keeps the scripts that it is handed. -/
instance : TaskSink Store := ⟨Store.add⟩

/-- A task that became a script. -/
structure CompletedTask where
  index : UInt32
  script : Script
  /-- The subtasks that the script calls, in order. -/
  subtasks : List String
  deriving Repr, DecidableEq

namespace Session

def new : Session := ⟨.idle, none, .none, false⟩

/-- A task is being authored. -/
def isActive (s : Session) : Bool :=
  s.phase.isActive

/-- The credentials of the task, once it has them. -/
def credentials? (s : Session) : Option Credentials :=
  if s.assigned then some s.stored else none

def taskKey? (s : Session) : Option String :=
  s.taskIndex.map Script.taskKey

/-- Shown in place of a value that is empty. -/
def placeholder : String := "None"

/-- The credentials as they are shown to the operator. -/
def shown? (s : Session) : Option Credentials :=
  s.credentials?.map (·.map fun value => if value = "" then placeholder else value)

/-- The index of the task, while it is being authored. -/
def activeIndex? (s : Session) : Option UInt32 :=
  if s.isActive then s.taskIndex else none

/-- Starts a task with the index that the counter shows; the answer is the index. -/
def start (s : Session) (counter : Counter) : Except SessionError UInt32 × Session :=
  match s.activeIndex? with
  | some index => (.error (.refused (.alreadyRunning index)), s)
  | none => (.ok counter.value, ⟨.started, some counter.value, .none, false⟩)

def computerQuestion : String := "[>] Enter the target IP address"

def usernameQuestion : String := "[>] Enter the username to connect"

def passwordQuestion : String := "[>] Enter the connection password"

/-- Asks whether new credentials shall take the place of older ones. -/
def overwriteQuestion : String := "[?] Overwrite stored credentials?"

/-- Asks for the three credentials, up to the first question that fails. -/
def askCredentials (o : Operator) : Except DeskError Credentials × Operator :=
  match o.input computerQuestion with
  | (.error e, o) => (.error e, o)
  | (.ok computer, o) =>
    match o.input usernameQuestion with
    | (.error e, o) => (.error e, o)
    | (.ok username, o) =>
      match o.input passwordQuestion with
      | (.error e, o) => (.error e, o)
      | (.ok password, o) => (.ok ⟨computer, username, password⟩, o)

/-- Asks for credentials and stores them once all three are given. -/
def captureAs (s : Session) (o : Operator) (outcome : CaptureOutcome) :
    Except SessionError CaptureOutcome × Session × Operator :=
  match askCredentials o with
  | (.error e, o) => (.error (.prompt e), s, o)
  | (.ok credentials, o) =>
    (.ok outcome,
      { s with phase := .credentialsAssigned, stored := credentials, assigned := true }, o)

/-- Gets the task its credentials. If it has some, the operator is asked first whether to replace
    them. -/
def capture (s : Session) (o : Operator) : Except SessionError CaptureOutcome × Session × Operator :=
  if !s.isActive then (.error (.refused .notStarted), s, o)
  else if s.assigned then
    match o.confirm overwriteQuestion with
    | (.error e, o) => (.error (.prompt e), s, o)
    | (.ok false, o) => (.ok .kept, s, o)
    | (.ok true, o) => s.captureAs o .overwritten
  else s.captureAs o .captured

/-- No task; the last one ended in the given phase. -/
def cleared (phase : Phase) : Session :=
  ⟨phase, none, .none, false⟩

/-- Makes the task a script, hands it to the sink and takes all subtasks. -/
def complete {σ : Type} [TaskSink σ] (s : Session) (registry : Registry) (sink : σ)
    (escaped : Bool) : Except SessionError CompletedTask × Session × Registry × σ :=
  match s.taskIndex, s.assigned with
  | some index, true =>
    let script := Script.assemble index s.stored registry.subtasks escaped
    (.ok ⟨index, script, registry.ids⟩, cleared .completed, registry.drain.2,
      TaskSink.add sink script.key script.text)
  | _, _ => (.error (.refused .credentialsMissing), s, registry, sink)

/-- Gives the task up; its subtasks wait for the next one. The answer is its index. -/
def discard (s : Session) : Except SessionError UInt32 × Session :=
  match s.activeIndex? with
  | some index => (.ok index, cleared .discarded)
  | none => (.error (.refused .notStarted), s)

end Session

end RemoteDesk
