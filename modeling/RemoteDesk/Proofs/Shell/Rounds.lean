import Mathlib.Data.List.Induction
import RemoteDesk.Proofs.Shell.Commands

/-! # Rounds of the shell

A round is one reading with the desk before and after it. Whether the shell reads on after a round
depends on the reading alone, and what the round does to the desk is what its command does. A run is
a row of rounds, the last of which closes it unless the output breaks it off, and then only the
output changes any more.
-/

namespace RemoteDesk.Shell

open Desk Desk.Action

/-- The command that a reading brings. -/
def Reading.command? : Reading → Option Command
  | .line text =>
    match Command.parse text with
    | .ok command => command
    | .error _ => none
  | .endOfInput | .failed _ => none

/-- Nothing is read after this. -/
def Reading.closes : Reading → Bool
  | .line text => (Reading.line text).command? = some .exit
  | .endOfInput | .failed _ => true

/-- Whether the shell reads on after this. -/
def Reading.flow (r : Reading) : Flow :=
  if r.closes then .leave else .goOn

/-- The desk after the turn of a reading. -/
def next (d : Desk) (r : Reading) : Desk :=
  ((turn r).on d).2

/-- The desk after the command of a reading, before a failure is reported. -/
def carried (d : Desk) (r : Reading) : Desk :=
  match r.command? with
  | some command => ((execute command).on d).2
  | none => d

/-- The task that the turn of a reading makes a script. -/
def task? (d : Desk) (r : Reading) : Option CompletedTask :=
  if r.command? = some .complete then completed? d else none

theorem task?_eq_some {d : Desk} {r : Reading} {task : CompletedTask} :
    task? d r = some task ↔ r.command? = some .complete ∧ completed? d = some task := by
  unfold task?
  exact Option.ite_none_right_eq_some

/-! ## One turn -/

theorem Effect.echo {d d' d'' : Desk} {task : Option CompletedTask} (h : Effect d d' task)
    (echoed : d'.Echoed d'') : Effect d d'' task := by
  cases h with
  | authors session registry operator moves alike =>
      exact .authors session registry operator moves (alike.trans echoed.alike)
  | completes task completed echoed' => exact .completes task completed (Frame.trans echoed' echoed)

/-- What a turn leads to: an effect, and unless the output refuses a text an answer. -/
structure Leads (d : Desk) (a : Action Flow) (task : Option CompletedTask) (flow : Flow) :
    Prop where
  effect : Effect d (a.on d).2 task
  flow : ∀ answer, (a.on d).1 = .ok answer → answer = flow

theorem on_then (a : Action Unit) (flow : Flow) (d : Desk) :
    (do a; return flow : Action Flow).on d = ((a.on d).1.map fun _ => flow, (a.on d).2) := by
  rw [on_bind]
  rcases a.on d with ⟨e | x, d'⟩ <;> rfl

theorem flow_of_map {result : Except DeskError Unit} {flow answer : Flow}
    (h : (result.map fun _ => flow) = .ok answer) : answer = flow := by
  cases result with
  | error e => cases h
  | ok x => exact (Except.ok.inj h).symm

theorem leads_then {d : Desk} {a : Action Unit} {task : Option CompletedTask}
    (h : Effect d (a.on d).2 task) (flow : Flow) : Leads d (do a; return flow) task flow := by
  constructor <;> rw [on_then]
  · exact h
  · exact fun answer => flow_of_map

/-- What no command changes. -/
structure SameSetting (d d' : Desk) : Prop where
  config : d'.config = d.config
  palette : d'.palette = d.palette
  stamp : d'.stamp = d.stamp
  refusal : d'.sink.refusal = d.sink.refusal

theorem SameSetting.trans {d₁ d₂ d₃ : Desk} (h : SameSetting d₁ d₂) (h' : SameSetting d₂ d₃) :
    SameSetting d₁ d₃ :=
  ⟨h'.config.trans h.config, h'.palette.trans h.palette, h'.stamp.trans h.stamp,
    h'.refusal.trans h.refusal⟩

theorem Effect.setting {d d' : Desk} {task : Option CompletedTask} (h : Effect d d' task) :
    SameSetting d d' := by
  cases h with
  | authors session registry operator moves alike =>
      exact ⟨alike.config, alike.palette, alike.stamp, alike.refusal⟩
  | completes task completed echoed =>
      have alike := alike_of_completes echoed
      exact ⟨alike.config, alike.palette, alike.stamp, alike.refusal⟩

/-- A command other than `exit` is carried out, and then the shell goes on. -/
theorem execute_leads {command : Command} (other : command ≠ .exit) (d : Desk) :
    Leads d (execute command) (if command = .complete then completed? d else none) .goOn := by
  have talk {a : Action Unit} (within : Within Echoed a) :
      Leads d (do a; return .goOn) none .goOn :=
    leads_then (.of_talk (within.leads d).alike) .goOn
  cases command with
  | exit => exact (other rfl).elim
  | new => exact leads_then (startTask_effect d) .goOn
  | credentials => exact leads_then (captureCredentials_effect d) .goOn
  | showCredentials => exact talk showCredentials_talk.within_echoed
  | subtask id path => exact leads_then (addSubtask_effect id (Path.ofString path) d) .goOn
  | subtaskDir directory => exact leads_then (addDirectory_effect (Path.ofString directory) d) .goOn
  | assigned => exact talk listSubtasks_talk.within_echoed
  | discard => exact leads_then (discardTask_effect d) .goOn
  | tasks => exact talk listTasks_talk.within_echoed
  | help => exact talk (.emit _)
  | unknown word => exact talk (.emitPainted _ _)
  | complete =>
      refine leads_then ?_ .goOn
      rcases completeTask_cases d with ⟨task, completed, echoed⟩ | ⟨refused, same⟩
      · rw [if_pos rfl, completed]
        exact .completes task completed echoed
      · rw [if_pos rfl, refused, same]
        exact .of_talk (.refl d)

/-- The commands that only say something. -/
inductive Talks : Command → Prop where
  | exit : Talks .exit
  | showCredentials : Talks .showCredentials
  | assigned : Talks .assigned
  | tasks : Talks .tasks
  | help : Talks .help
  | unknown (word : String) : Talks (.unknown word)

/-- What the six commands that do something bring about, and talk as well, every command brings
    about. -/
theorem execute_cases {d : Desk} {P : Command → Desk → Prop}
    (talk : ∀ command d', Talks command → d.Echoed d' → P command d')
    (new : P .new (startTask.on d).2) (credentials : P .credentials (captureCredentials.on d).2)
    (subtask : ∀ id path, P (.subtask id path) ((addSubtask id (Path.ofString path)).on d).2)
    (subtaskDir : ∀ directory,
      P (.subtaskDir directory) ((addDirectory (Path.ofString directory)).on d).2)
    (complete : P .complete (completeTask.on d).2) (discard : P .discard (discardTask.on d).2)
    (command : Command) : P command ((execute command).on d).2 := by
  have done {a : Action Unit} (h : P command (a.on d).2) :
      P command ((do a; return Flow.goOn : Action Flow).on d).2 := by
    rw [on_then]
    exact h
  have talked {a : Action Unit} (talks : Talks command) (within : Within Echoed a) :
      P command ((do a; return Flow.goOn : Action Flow).on d).2 :=
    done (talk command _ talks (within.leads d))
  cases command with
  | exit => exact talk .exit d .exit (Frame.refl d)
  | new => exact done new
  | credentials => exact done credentials
  | showCredentials => exact talked .showCredentials showCredentials_talk.within_echoed
  | subtask id path => exact done (subtask id path)
  | subtaskDir directory => exact done (subtaskDir directory)
  | assigned => exact talked .assigned listSubtasks_talk.within_echoed
  | complete => exact done complete
  | discard => exact done discard
  | tasks => exact talked .tasks listTasks_talk.within_echoed
  | help => exact talked .help (.emit _)
  | unknown word => exact talked (.unknown word) (.emitPainted _ _)

theorem handleLine_leads (d : Desk) (text : String) :
    Leads d (handleLine text) (task? d (.line text)) (Reading.line text).flow := by
  have on : (handleLine text).on d =
      match Command.parse text with
      | .error e => (.error e, d)
      | .ok none => (.ok .goOn, d)
      | .ok (some command) => (execute command).on d := by
    unfold handleLine
    rw [on_bind, on_of]
    rcases Command.parse text with e | _ | command <;> rfl
  -- A line that is no command, or a command that only leaves, changes nothing.
  have still {answer : Except DeskError Flow} (same : (handleLine text).on d = (answer, d))
      (incomplete : (Reading.line text).command? ≠ some .complete)
      (flow : ∀ x, answer = .ok x → x = (Reading.line text).flow) :
      Leads d (handleLine text) (task? d (.line text)) (Reading.line text).flow := by
    constructor
    · rw [same, task?, if_neg incomplete]
      exact .of_talk (.refl d)
    · rw [same]
      exact flow
  rcases parsed : Command.parse text with e | _ | command <;> rw [parsed] at on
  · exact still on (by simp [Reading.command?, parsed]) (by simp)
  · apply still on <;> simp [Reading.command?, Reading.flow, Reading.closes, parsed]
  · by_cases exits : command = .exit
    · subst exits
      apply still on <;> simp [Reading.command?, Reading.flow, Reading.closes, parsed]
    · have leads := execute_leads exits d
      constructor
      · simpa only [on, task?, Reading.command?, parsed, Option.some.injEq] using leads.effect
      · rw [on]
        simpa [Reading.flow, Reading.closes, Reading.command?, parsed, exits] using leads.flow

theorem complain_within (e : DeskError) : Within Echoed (complain e) :=
  .emitPainted _ _

theorem on_turn_of_ok {d d' : Desk} {text : String} {flow : Flow}
    (h : (handleLine text).on d = (.ok flow, d')) : (turn (.line text)).on d = (.ok flow, d') := by
  unfold turn
  rw [on_bind, on_outcome, h]
  rfl

theorem on_turn_of_error {d d' : Desk} {text : String} {e : DeskError}
    (h : (handleLine text).on d = (.error e, d')) :
    (turn (.line text)).on d =
      (((complain e).on d').1.map fun _ => .goOn, ((complain e).on d').2) := by
  rw [← on_then]
  unfold turn
  rw [on_bind, on_outcome, h]

theorem handleLine_of_command {text : String} {command : Command}
    (brings : (Reading.line text).command? = some command) (d : Desk) :
    (handleLine text).on d = (execute command).on d := by
  unfold handleLine
  rw [on_bind, on_of]
  unfold Reading.command? at brings
  rcases parsed : Command.parse text with e | found
  · simp [parsed] at brings
  · obtain rfl : found = some command := by simpa [parsed] using brings
    rfl

theorem handleLine_of_exit {text : String}
    (exits : (Reading.line text).command? = some .exit) (d : Desk) :
    (handleLine text).on d = (.ok .leave, d) := by
  rw [handleLine_of_command exits]
  rfl

theorem flow_of_error {d d' : Desk} {text : String} {e : DeskError}
    (failed : (handleLine text).on d = (.error e, d')) : (Reading.line text).flow = .goOn := by
  have stays : (Reading.line text).command? ≠ some .exit := by
    intro exits
    rw [handleLine_of_exit exits] at failed
    simp at failed
  simp [Reading.flow, Reading.closes, stays]

/-- The turn of a reading does what its command does, and then goes on or leaves as the reading
    says. -/
theorem turn_leads (d : Desk) (r : Reading) : Leads d (turn r) (task? d r) r.flow := by
  cases r with
  | endOfInput => exact ⟨.of_talk (.refl d), fun answer same => (Except.ok.inj same).symm⟩
  | failed e => exact leads_then (.of_talk ((complain_within e).leads d).alike) .leave
  | line text =>
      have leads := handleLine_leads d text
      rcases answered : (handleLine text).on d with ⟨e | flow, d'⟩
      · have effect := leads.effect
        rw [answered] at effect
        constructor <;> rw [on_turn_of_error answered]
        · exact effect.echo ((complain_within e).leads d')
        · rw [flow_of_error answered]
          exact fun answer => flow_of_map
      · constructor <;> rw [on_turn_of_ok answered]
        · simpa only [answered] using leads.effect
        · simpa only [answered] using leads.flow

/-- If the output refuses nothing, every turn is done. -/
theorem turn_done {d : Desk} (accepts : d.sink.Accepts) (r : Reading) :
    ((turn r).on d).1 = .ok r.flow := by
  have done : ∃ answer, ((turn r).on d).1 = .ok answer := by
    cases r with
    | endOfInput => exact ⟨_, rfl⟩
    | failed e =>
        obtain ⟨x, succeeds⟩ := (complain_within e).done d accepts
        refine ⟨.leave, ?_⟩
        change ((do complain e; return Flow.leave).on d).1 = _
        rw [on_then, succeeds]
        rfl
    | line text =>
        rcases answered : (handleLine text).on d with ⟨e | flow, d'⟩
        · have effect := (handleLine_leads d text).effect
          rw [answered] at effect
          have onward : d'.sink.Accepts := accepts_of_refusal effect.setting.refusal accepts
          obtain ⟨x, succeeds⟩ := (complain_within e).done d' onward
          refine ⟨.goOn, ?_⟩
          rw [on_turn_of_error answered, succeeds]
          rfl
        · exact ⟨flow, by rw [on_turn_of_ok answered]⟩
  obtain ⟨answer, same⟩ := done
  rw [same, (turn_leads d r).flow answer same]

theorem handleLine_still {text : String} (commandless : (Reading.line text).command? = none)
    (d : Desk) :
    ((handleLine text).on d).2 = d := by
  unfold handleLine
  rw [on_bind, on_of]
  unfold Reading.command? at commandless
  rcases parsed : Command.parse text with e | found
  · rfl
  · obtain rfl : found = none := by simpa [parsed] using commandless
    rfl

/-- But for the output, the desk after a turn is the one after its command. -/
theorem next_echoes (d : Desk) (r : Reading) : (carried d r).Echoed (next d r) := by
  cases r with
  | endOfInput => exact Frame.refl d
  | failed e =>
      have same : next d (.failed e) = ((complain e).on d).2 := by
        change ((do complain e; return Flow.leave).on d).2 = _
        rw [on_then]
      rw [same]
      exact (complain_within e).leads d
  | line text =>
      have handled : carried d (.line text) = ((handleLine text).on d).2 := by
        unfold carried
        cases brings : (Reading.line text).command? with
        | some command => rw [handleLine_of_command brings]
        | none => exact (handleLine_still brings d).symm
      rw [handled, next]
      rcases answered : (handleLine text).on d with ⟨e | flow, d'⟩
      · rw [on_turn_of_error answered]
        exact (complain_within e).leads d'
      · rw [on_turn_of_ok answered]
        exact Frame.refl d'

/-! ## Rows of rounds -/

/-- One reading, with the desk before and after it. -/
structure Round where
  before : Desk
  reading : Reading

namespace Round

/-- The desk after the turn. -/
def after (x : Round) : Desk :=
  next x.before x.reading

/-- The task that became a script. -/
def task? (x : Round) : Option CompletedTask :=
  Shell.task? x.before x.reading

end Round

/-- The rounds of a row of readings. -/
def rounds (d : Desk) : List Reading → List Round
  | [] => []
  | r :: rest => ⟨d, r⟩ :: rounds (next d r) rest

/-- The desk after a row of readings. -/
def stand (d : Desk) (readings : List Reading) : Desk :=
  readings.foldl next d

theorem stand_append (d : Desk) (first others : List Reading) :
    stand d (first ++ others) = stand (stand d first) others :=
  List.foldl_append

theorem rounds_append (d : Desk) (first others : List Reading) :
    rounds d (first ++ others) = rounds d first ++ rounds (stand d first) others := by
  induction first generalizing d with
  | nil => rfl
  | cons r rest ih =>
      rw [List.cons_append, rounds, ih]
      rfl

/-- A round stands where the readings before it have led. -/
theorem rounds_split {d : Desk} {readings : List Reading} {past later : List Round} {x : Round}
    (split : rounds d readings = past ++ x :: later) :
    ∃ heardSoFar, past = rounds d heardSoFar ∧ x.before = stand d heardSoFar := by
  induction readings generalizing d past with
  | nil => simp [rounds] at split
  | cons r rest ih =>
      cases past with
      | nil =>
          obtain ⟨rfl, -⟩ := List.cons.inj split
          exact ⟨[], rfl, rfl⟩
      | cons first past =>
          obtain ⟨rfl, others⟩ := List.cons.inj split
          obtain ⟨heardSoFar, rfl, before⟩ := ih others
          exact ⟨r :: heardSoFar, rfl, before⟩

/-- What holds at the start and is kept by every round holds after a row of rounds. -/
theorem rounds_invariant {I : List Round → Desk → Prop} {d : Desk} (init : I [] d)
    (keeps : ∀ past d r, I past d → I (past ++ [⟨d, r⟩]) (next d r)) (readings : List Reading) :
    I (rounds d readings) (stand d readings) := by
  -- The readings are taken from the end: the last round is the one that the step is about.
  induction readings using List.reverseRecOn with
  | nil => exact init
  | append_singleton front last ih =>
      rw [rounds_append, stand_append]
      exact keeps _ _ last ih

theorem setting_next (d : Desk) (r : Reading) : SameSetting d (next d r) :=
  (turn_leads d r).effect.setting

theorem setting_stand (d : Desk) (readings : List Reading) : SameSetting d (stand d readings) := by
  induction readings generalizing d with
  | nil => exact ⟨rfl, rfl, rfl, rfl⟩
  | cons r rest ih => exact (setting_next d r).trans (ih (next d r))

theorem config_of_rounds {d : Desk} {readings : List Reading} {x : Round}
    (h : x ∈ rounds d readings) : x.before.config = d.config := by
  induction readings generalizing d with
  | nil => cases h
  | cons r rest ih =>
      rcases List.mem_cons.mp h with rfl | later
      · rfl
      · exact (ih later).trans (setting_next d r).config

/-! ## The loop -/

/-- The readings that a run comes to: all up to the first that closes it, or all and then the end of
    input. -/
def heard : List Reading → List Reading
  | [] => [.endOfInput]
  | r :: rest => if r.closes then [r] else r :: heard rest

/-- The readings that a run does not come to. -/
def unheard : List Reading → List Reading
  | [] => []
  | r :: rest => if r.closes then rest else unheard rest

theorem emitAll_within (scripts : List String) : Within Echoed (emitAll scripts) := by
  induction scripts with
  | nil => exact .pure ()
  | cons script rest ih => exact (Within.emit script).bind fun _ => ih

theorem finish_within : Within Echoed finish :=
  (Within.look pending).bind fun scripts => emitAll_within scripts

theorem taken_emitAll {d : Desk} (accepts : d.sink.Accepts) (scripts : List String) :
    ((emitAll scripts).on d).2.sink.taken = d.sink.taken ++ String.join scripts := by
  induction scripts generalizing d with
  | nil => simp [emitAll, on_pure]
  | cons script rest ih =>
      have onward : ((emit script).on d).2.sink.Accepts :=
        Frame.accepts ((Within.emit script).leads d) accepts
      rw [on_emit accepts] at onward
      rw [emitAll, on_bind_ok (on_emit accepts script), ih onward, String.join_cons,
        String.append_assoc]

/-- At the end the pending scripts are printed one after another, and nothing else is. -/
theorem taken_finish {d : Desk} (accepts : d.sink.Accepts) :
    (finish.on d).2.sink.taken = d.sink.taken ++ String.join (pending d) := by
  unfold finish
  rw [on_bind_ok (show (look pending).on d = (.ok (pending d), d) from rfl)]
  exact taken_emitAll accepts _

theorem next_of_on {d d' : Desk} {r : Reading} {result : Except DeskError Flow}
    (h : (turn r).on d = (result, d')) : next d r = d' := by
  rw [next, h]

/-- However a run ends, its desk is the one after the readings that it came to, but for the
    output. -/
theorem converse_desk (d : Desk) (readings : List Reading) :
    (stand d ((converse d readings).exchanges.map (·.reading))).Echoed
      (converse d readings).desk := by
  induction readings generalizing d with
  | nil => exact finish_within.leads d
  | cons r rest ih =>
      unfold converse
      rcases turned : (turn r).on d with ⟨e | _ | _, d'⟩
      · have same : next d r = d' := next_of_on turned
        subst same
        exact Frame.refl _
      · have same : next d r = d' := next_of_on turned
        subst same
        exact ih _
      · have same : next d r = d' := next_of_on turned
        subst same
        exact finish_within.leads _

/-- When the output refuses nothing, a run comes to all readings up to the one that closes it, and
    ends with the pending scripts of the desk that they lead to. -/
theorem converse_of_accepts {d : Desk} (accepts : d.sink.Accepts) (readings : List Reading) :
    (converse d readings).result = .ok () ∧
      (converse d readings).exchanges.map (·.reading) = heard readings ∧
      (converse d readings).unread = unheard readings ∧
      (converse d readings).desk = (finish.on (stand d (heard readings))).2 := by
  have finished (d : Desk) (accepts : d.sink.Accepts) : (finish.on d).1 = .ok () := by
    obtain ⟨x, succeeds⟩ := finish_within.done d accepts
    exact succeeds
  induction readings generalizing d with
  | nil => exact ⟨finished d accepts, rfl, rfl, rfl⟩
  | cons r rest ih =>
      have turned : (turn r).on d = (.ok r.flow, next d r) := Prod.ext (turn_done accepts r) rfl
      have onward : (next d r).sink.Accepts :=
        accepts_of_refusal (setting_next d r).refusal accepts
      unfold converse heard unheard
      rw [turned]
      by_cases closes : r.closes
      · simp only [Reading.flow, closes, if_true]
        exact ⟨finished _ onward, rfl, rfl, rfl⟩
      · obtain ⟨result, exchanges, unread, desk⟩ := ih onward
        simp only [Reading.flow, closes, Bool.false_eq_true, if_false]
        refine ⟨result, ?_, unread, desk⟩
        rw [List.map_cons, exchanges]
        rfl

/-- The desk at the start of a run whose disk breaks off changes of files as `faults` says. -/
def opened (config : Config) (color : Bool) (tree : FileTree) (faults : List (Option DiskFault))
    (operator : Operator) (sink : Sink) (stamp : Audit.Stamp) : Desk :=
  { Desk.new config color tree operator sink stamp with faults }

/-- The desk once the introduction has been printed. -/
def introduced (d : Desk) : Desk :=
  ((emit introduction).on d).2

theorem introduced_echoed (d : Desk) : d.Echoed (introduced d) :=
  (Within.emit introduction).leads d

theorem run_desk (d : Desk) (readings : List Reading) :
    (stand (introduced d) ((run d readings).exchanges.map (·.reading))).Echoed
      (run d readings).desk := by
  unfold run introduced
  rcases (emit introduction).on d with ⟨e | ⟨⟩, d'⟩
  · exact Frame.refl d'
  · exact converse_desk d' readings

theorem run_of_accepts {d : Desk} (accepts : d.sink.Accepts) (readings : List Reading) :
    (run d readings).result = .ok () ∧
      (run d readings).exchanges.map (·.reading) = heard readings ∧
      (run d readings).unread = unheard readings ∧
      (run d readings).desk = (finish.on (stand (introduced d) (heard readings))).2 := by
  have printed : (emit introduction).on d = (.ok (), introduced d) := by
    obtain ⟨x, succeeds⟩ := (Within.emit introduction).done d accepts
    exact Prod.ext succeeds rfl
  unfold run
  rw [printed]
  exact converse_of_accepts (Frame.accepts (introduced_echoed d) accepts) readings

end RemoteDesk.Shell
