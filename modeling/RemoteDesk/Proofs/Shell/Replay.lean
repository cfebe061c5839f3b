import RemoteDesk.Proofs.Script.Sections
import RemoteDesk.Proofs.Shell.Record
import RemoteDesk.Proofs.Shell.Registered

/-! # The log of a run replays to its session

Every turn adds to the log what it does to the session. So as long as the log takes the events, the
log has exactly the transitions of a run, and following them from the start leads to the session as
it is.
-/

namespace RemoteDesk.Shell

open Audit Desk

namespace Round

def transition? (x : Round) : Option Transition :=
  Shell.transition? x.before x.reading

/-- If the round makes a transition, the log takes its event. -/
def logged (x : Round) : Bool :=
  x.transition?.all (x.before.logs ·.deed)

/-- The deed that the round leaves in the log. -/
def deed? (x : Round) : Option Deed :=
  (x.transition?.filter (x.before.logs ·.deed)).map (·.deed)

theorem deed?_of_logged {x : Round} (h : x.logged) : x.deed? = x.transition?.map (·.deed) := by
  unfold deed?
  unfold logged at h
  cases made : x.transition? with
  | none => rfl
  | some t =>
      rw [made, Option.all_some] at h
      rw [Option.filter_some, if_pos h]

end Round

def transitions (rounds : List Round) : List Transition :=
  rounds.filterMap (·.transition?)

theorem filterMap_concat {α β : Type} (f : α → Option β) (items : List α) (x : α) :
    (items ++ [x]).filterMap f = items.filterMap f ++ (f x).toList := by
  rw [List.filterMap_append]
  cases made : f x with
  | none => rw [List.filterMap_cons_none made, List.filterMap_nil, Option.toList_none]
  | some y => rw [List.filterMap_cons_some made, List.filterMap_nil, Option.toList_some]

/-- The log has a deed for each transition that it took, and the session stands where all of them
    lead. -/
structure Chronicled (past : List Round) (d : Desk) : Prop where
  coherent : d.session.Coherent
  told : taskDeeds d.recorded = past.filterMap (·.deed?)
  followed : followAll (transitions past) = some d.session.standing?

theorem Chronicled.step {past : List Round} {d : Desk} (h : Chronicled past d) (r : Reading) :
    Chronicled (past ++ [⟨d, r⟩]) (next d r) := by
  have takes := next_takes h.coherent r
  refine ⟨(turn_leads d r).effect.coherent h.coherent, ?_, ?_⟩
  · rw [takes.told, h.told, filterMap_concat]
    rfl
  · have followed := takes.followed
    rw [transitions, filterMap_concat, ← transitions,
      show (Round.mk d r).transition? = transition? d r from rfl]
    cases made : transition? d r with
    | none =>
        rw [made] at followed
        rw [Option.toList_none, List.append_nil, h.followed]
        exact followed
    | some t =>
        rw [made] at followed
        rw [Option.toList_some, followAll_append, h.followed]
        exact followed

theorem chronicled_of_rounds {d : Desk} (idle : d.session = .new) (empty : d.recorded = [])
    (readings : List Reading) : Chronicled (rounds d readings) (stand d readings) := by
  have start : Chronicled [] d := by
    refine ⟨?_, ?_, ?_⟩
    · rw [idle]
      exact .new
    · rw [empty]
      rfl
    · rw [idle]
      rfl
  have keeps (past : List Round) (e : Desk) (r : Reading) (h : Chronicled past e) :
      Chronicled (past ++ [⟨e, r⟩]) (next e r) :=
    h.step r
  exact rounds_invariant start keeps readings

/-- While the log takes the events, it has the deeds of all transitions and no others. -/
theorem Chronicled.deeds {past : List Round} {d : Desk} (h : Chronicled past d)
    (logged : ∀ x ∈ past, x.logged) :
    taskDeeds d.recorded = (transitions past).map (·.deed) := by
  rw [h.told, transitions, List.map_filterMap]
  exact List.filterMap_congr fun x member => Round.deed?_of_logged (logged x member)

theorem transition?_of_task {d : Desk} {r : Reading} {task : CompletedTask}
    (made : task? d r = some task) :
    transition? d r = some (.complete task.index task.subtasks) := by
  obtain ⟨complete, completed⟩ := task?_eq_some.mp made
  rw [transition?, complete, Option.bind_some, accepted?, completed, Option.map_some]

/-- A completion calls the subtasks that it names, in order. -/
theorem calls_of_task {d : Desk} (filled : d.registry.Filled) {r : Reading} {task : CompletedTask}
    (made : task? d r = some task) :
    task.script = Script.assemble task.index d.session.stored d.registry.subtasks
        d.config.escapeCredentials ∧
      Script.calls (Script.callSection d.registry.subtasks) = task.subtasks := by
  obtain ⟨-, completed⟩ := task?_eq_some.mp made
  obtain ⟨index, -, -, rfl⟩ := completed?_eq_some completed
  exact ⟨rfl, Script.calls_callSection filled.sound.valid⟩

/-- If the log takes the events of all transitions, then whatever else fails it has these and no
    other events about tasks, at every desk that a shell comes to. They are a row of whole lives and
    at most one that goes on, each under one key, and the log replays to the session: to its
    activity, to its index and to the computer and the user name that it has been given. A
    completion names exactly the subtasks that its script calls. The last part is for whole runs:
    they end with the log and the session that their readings lead to. -/
theorem log_replays_session (config : Config) (color : Bool) (tree : FileTree)
    (faults : List (Option DiskFault)) (operator : Operator) (sink : Sink) (stamp : Audit.Stamp)
    (readings : List Reading)
    (logged : ∀ x ∈ rounds (introduced (opened config color tree faults operator sink stamp))
      readings, x.logged) :
    let start := opened config color tree faults operator sink stamp
    let done := rounds (introduced start) readings
    let d := stand (introduced start) readings
    taskDeeds d.recorded = (transitions done).map (·.deed) ∧
    (∃ ended unfinished,
      transitions done = chronicle ended unfinished ∧
      (∀ l ∈ ended, ∀ t ∈ l.transitions,
        t.deed.task = some (Script.taskKey l.opening.index)) ∧
      (∀ o ∈ unfinished, ∀ t ∈ o.transitions, t.deed.task = some (Script.taskKey o.index)) ∧
      replay? d.recorded = some (unfinished.map (·.standing)) ∧
      unfinished.isSome = d.session.isActive ∧
      unfinished.map (·.index) = d.session.taskIndex ∧
      (unfinished.bind fun o => o.given.getLast?) =
        d.session.credentials?.map fun c => (c.computer, c.username)) ∧
    (∀ x ∈ done, ∀ task, x.task? = some task →
      x.transition? = some (.complete task.index task.subtasks) ∧
      task.script = Script.assemble task.index x.before.session.stored x.before.registry.subtasks
        config.escapeCredentials ∧
      Script.calls (Script.callSection x.before.registry.subtasks) = task.subtasks) ∧
    (∀ typed, (run start typed).exchanges.map (·.reading) = readings →
      (run start typed).desk.recorded = d.recorded ∧
      (run start typed).desk.session = d.session) := by
  intro start done d
  have echoed := introduced_echoed start
  have h : Chronicled done d := chronicled_of_rounds echoed.alike.session echoed.recorded readings
  have told := h.deeds logged
  obtain ⟨ended, unfinished, lives, stands⟩ := lives_of_followAll h.followed
  obtain ⟨active, index, given⟩ := h.coherent.standing?
  rw [← stands] at active index given
  refine ⟨told, ⟨ended, unfinished, lives, ?_, ?_, ?_, ?_, ?_, ?_⟩, ?_, ?_⟩
  · intro l _ t member
    exact congrArg (some ∘ Script.taskKey) (Life.index_of_mem member)
  · intro o _ t member
    exact congrArg (some ∘ Script.taskKey) (Opening.index_of_mem member)
  · rw [replay?_eq told, h.followed, stands]
  · rw [← active, Option.isSome_map]
  · rw [← index, Option.map_map]
    rfl
  · rw [← given, Option.bind_map]
    rfl
  · intro x member task made
    have clear : (introduced start).registry.Filled := by
      rw [echoed.alike.registry]
      exact .empty
    have same : x.before.config = config := (config_of_rounds member).trans echoed.alike.config
    obtain ⟨script, calls⟩ := calls_of_task (filled_of_rounds clear member) made
    rw [same] at script
    exact ⟨transition?_of_task made, script, calls⟩
  · intro typed came
    have ends := run_desk start typed
    rw [came] at ends
    exact ⟨ends.recorded, ends.alike.session⟩

/-- The disk does not take the script of the first task of this run, and the second is given up. -/
theorem log_replays_session_after_discard :
    ∃ config faults operator readings,
      config = { Config.default with eventsFile := some "log", outputDirectory := some "out" } ∧
      faults = [none, none, none, none, some ⟨"disk full", ⟨[], []⟩⟩] ∧
      operator = Operator.scripted
        [.ok "host", .ok "user", .ok "word", .ok "host", .ok "other", .ok "word"]
        [.ok false, .ok true] ∧
      readings = [.line "new", .line "credentials", .line "credentials", .line "credentials",
        .line "complete", .line "new", .line "discard", .line "complete", .line "new"] ∧
      let start := opened config false ⟨[], []⟩ faults operator .unlimited ⟨⟨0, 0, 0⟩, "me"⟩
      let done := rounds (introduced start) readings
      let d := stand (introduced start) readings
      transitions done = [.start 1, .credentials 1 "host" "user" false,
        .credentials 1 "host" "other" true, .complete 1 [], .start 2, .discard 2, .start 2] ∧
      taskDeeds d.recorded = (transitions done).map (·.deed) ∧
      replay? d.recorded = some (some ⟨2, none⟩) ∧
      d.session.taskIndex = some 2 := by
  obtain ⟨config, settings⟩ : ∃ c, c = { Config.default with
      eventsFile := some "log", outputDirectory := some "out" } := ⟨_, rfl⟩
  obtain ⟨faults, broken⟩ : ∃ f, f = [none, none, none, none,
      some (DiskFault.mk "disk full" ⟨[], []⟩)] := ⟨_, rfl⟩
  obtain ⟨operator, answers⟩ : ∃ o, o = Operator.scripted
      [.ok "host", .ok "user", .ok "word", .ok "host", .ok "other", .ok "word"]
      [.ok false, .ok true] := ⟨_, rfl⟩
  obtain ⟨readings, typed⟩ : ∃ r : List Reading, r = [.line "new", .line "credentials",
      .line "credentials", .line "credentials", .line "complete", .line "new", .line "discard",
      .line "complete", .line "new"] := ⟨_, rfl⟩
  have logged : ∀ x ∈ rounds (introduced (opened config false ⟨[], []⟩ faults operator .unlimited
      ⟨⟨0, 0, 0⟩, "me"⟩)) readings, x.logged := by
    rw [settings, broken, answers, typed]
    decide +kernel
  have made : transitions (rounds (introduced (opened config false ⟨[], []⟩ faults operator
      .unlimited ⟨⟨0, 0, 0⟩, "me"⟩)) readings) = [.start 1, .credentials 1 "host" "user" false,
        .credentials 1 "host" "other" true, .complete 1 [], .start 2, .discard 2, .start 2] := by
    rw [settings, broken, answers, typed]
    decide +kernel
  obtain ⟨told, ⟨ended, unfinished, -, -, -, replays, -, index, -⟩, -, -⟩ := log_replays_session
    config false ⟨[], []⟩ faults operator .unlimited ⟨⟨0, 0, 0⟩, "me"⟩ readings logged
  have standing : replay? (stand (introduced (opened config false ⟨[], []⟩ faults operator
      .unlimited ⟨⟨0, 0, 0⟩, "me"⟩)) readings).recorded = some (some ⟨2, none⟩) := by
    rw [replay?_eq told, made]
    decide
  rw [standing] at replays
  obtain ⟨o, rfl, same⟩ := Option.map_eq_some_iff.mp (Option.some.inj replays).symm
  refine ⟨config, faults, operator, readings, settings, broken, answers, typed, made, told,
    standing, ?_⟩
  rw [← index, Option.map_some]
  exact congrArg (some ·.index) same

end RemoteDesk.Shell
