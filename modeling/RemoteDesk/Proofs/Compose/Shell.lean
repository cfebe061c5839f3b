import RemoteDesk.Proofs.Compose
import RemoteDesk.Proofs.Session.Questions
import RemoteDesk.Proofs.Shell.Rounds

/-! # Composing and the shell

The shell can author the task of a request, too: a new task, its credentials, the commands that
load what the request names, and the completion. Both ways load the same fragments in the same order
into an empty registry, and a command fails in the shell with what loading fails with. After a
failure the shell takes the next command while composing ends, so it is the first failure that both
report.

A log of the shell changes files on the way. As long as it is not among the fragments, the commands
load what they would load without it.
-/

namespace RemoteDesk

def Command.loads : Command → Bool
  | .subtask _ _ | .subtaskDir _ => true
  | _ => false

namespace Shell

open Desk Desk.Action

/-- Carries out commands one after another. After one that fails comes the next all the same. -/
def carryOut (d : Desk) : List Command → List (Except DeskError Flow) × Desk
  | [] => ([], d)
  | command :: rest =>
    let (answer, d') := (execute command).on d
    let (answers, last) := carryOut d' rest
    (answer :: answers, last)

theorem carryOut_cons (d : Desk) (command : Command) (rest : List Command) :
    carryOut d (command :: rest) =
      (((execute command).on d).1 :: (carryOut ((execute command).on d).2 rest).1,
        (carryOut ((execute command).on d).2 rest).2) :=
  rfl

def firstFailure {α : Type} : List (Except DeskError α) → Option DeskError
  | [] => none
  | .error e :: _ => some e
  | .ok _ :: rest => firstFailure rest

/-! ## Commands that succeed -/

/-- The action answers `x` and, but for talk, leads from one desk to the other. -/
structure Brings {α : Type} (a : Action α) (d : Desk) (x : α) (d' : Desk) : Prop where
  answer : (a.on d).1 = .ok x
  told : d'.Told (a.on d).2

theorem Brings.of_first {α : Type} {f : Desk → Except DeskError α × Desk} {a : Action Unit}
    (talks : TalksAfter f a) {d d' : Desk} {x : α} (first : f d = (.ok x, d'))
    (accepts : d'.sink.Accepts) : Brings a d () d' := by
  constructor
  · obtain ⟨⟨⟩, done⟩ := talks.succeeds first accepts
    exact done
  · have told := talks.leads d
    rwa [first] at told

theorem Brings.then {a : Action Unit} {d d' : Desk} (h : Brings a d () d') (flow : Flow) :
    Brings (do a; return flow) d flow d' := by
  constructor <;> rw [on_then]
  · rw [h.answer]
    rfl
  · exact h.told

theorem then_fails {a : Action Unit} {d : Desk} {e : DeskError} (h : (a.on d).1 = .error e)
    (flow : Flow) : ((do a; return flow : Action Flow).on d).1 = .error e := by
  rw [on_then, h]
  rfl

theorem execute_new {d : Desk} (accepts : d.sink.Accepts) (idle : d.session.activeIndex? = none) :
    Brings (execute .new) d .goOn { d with session := .started d.counter.value } := by
  rcases d.session.start_cases d.counter with ⟨index, active, -⟩ | ⟨-, accepted⟩
  · rw [idle] at active
    cases active
  · refine .then (.of_first startTask_speaks.talksAfter (x := d.counter.value) ?_ ?_) .goOn
    · rw [accepted]
      rfl
    · exact accepts

theorem execute_credentials {d : Desk} (accepts : d.sink.Accepts) {c : Credentials}
    (stores : d.session.Stores d.operator c) :
    Brings (execute .credentials) d .goOn
      { d with
        session := d.session.given c
        operator := (d.session.capture d.operator).2.2 } := by
  refine .then (.of_first captureCredentials_speaks.talksAfter (x := d.session.storing) ?_ ?_) .goOn
  · rw [stores.1, stores.2]
    rfl
  · exact accepts

/-- A command that loads fragments fails with what loading them fails with, or else brings the
    subtasks that wait then. -/
theorem execute_load {d : Desk} (accepts : d.sink.Accepts) {command : Command}
    (loads : command.loads) :
    match d.registry.load d.tree d.config.fragmentGlob command with
    | .error e => ((execute command).on d).1 = .error e
    | .ok registry => Brings (execute command) d .goOn { d with registry } := by
  cases command with
  | subtask id path =>
      have talks := (addSubtask_speaks id (Path.ofString path)).talksAfter
      simp only [Registry.load]
      cases loaded : d.registry.loadFile d.tree id (Path.ofString path) with
      | error e => exact then_fails (talks.fails (by simp only [loaded])) .goOn
      | ok registry =>
          refine .then (.of_first talks (x := ()) ?_ ?_) .goOn
          · simp only [loaded]
          · exact accepts
  | subtaskDir directory =>
      have talks := (addDirectory_speaks (Path.ofString directory)).talksAfter
      simp only [Registry.load]
      rcases loaded : d.registry.loadDirectory d.tree (Path.ofString directory)
          d.config.fragmentGlob with ⟨e | ids, registry⟩
      · exact then_fails (talks.fails (by simp only [loaded])) .goOn
      · refine .then (.of_first talks (x := ids) ?_ ?_) .goOn
        · simp only [loaded]
        · exact accepts
  | _ => cases loads

/-- Without an output directory, completing a task only talks once the task is a script. -/
theorem execute_complete {d : Desk} (accepts : d.sink.Accepts) {task : CompletedTask}
    (completed : completed? d = some task) (unwritten : d.config.outputDirectory = none) :
    Brings (execute .complete) d .goOn (scripted d task) := by
  have written : (writeScript task.script.key).on (finished d task) =
      (.ok none, finished d task) := by
    rcases writeScript_cases (finished_get? d task) with ⟨-, same⟩ | ⟨directory, configured, -⟩
    · exact same
    · rw [(finished_alike d task).config] at configured
      exact absurd (unwritten.symm.trans configured) nofun
  -- Once the task is recorded and not written, the last line is all that is left of the command.
  have last : completeTask.on d =
      (emitPainted .green ("[+] Completed : '" ++ task.script.key ++ "'")).on
        (finished d task) := by
    unfold completed? at completed
    rcases d.session.complete_cases d.registry d.store d.config.escapeCredentials with
      ⟨index, -, -, accepted⟩ | ⟨-, refused⟩
    · rw [accepted] at completed
      cases completed
      unfold completeTask
      rw [on_bind, on_of]
      simp only [accepted]
      rw [on_bind_ok (on_record _ _)]
      exact on_bind_ok written _
    · rw [refused] at completed
      cases completed
  have talk := Within.emitPainted .green ("[+] Completed : '" ++ task.script.key ++ "'")
  have told : (scripted d task).Told (finished d task) := record_told _ _
  refine .then (a := completeTask) ⟨?_, ?_⟩ .goOn <;> rw [last]
  · obtain ⟨⟨⟩, done⟩ := talk.done _ (Frame.accepts told accepts)
    exact done
  · exact told.trans (talk.told.leads _)

/-! ## The whole row -/

section Row

variable {shell : Config} {session : Session} {t : FileTree}

/-- The shell is at a task of this session, with these subtasks, and only its log has changed
    files. -/
structure Ready (shell : Config) (session : Session) (t : FileTree) (registry : Registry)
    (d : Desk) : Prop where
  config : d.config = shell
  session : d.session = session
  registry : d.registry = registry
  store : d.store = .empty
  sound : d.faults = []
  logged : Logged shell.eventsFile t d.tree
  accepts : d.sink.Accepts

theorem Ready.of_told {g : Registry} {d d' : Desk} (h : Ready shell session t g d)
    (told : d.Told d') : Ready shell session t g d' := by
  obtain ⟨sound, logged⟩ := told.logged h.sound
  rw [h.config] at logged
  exact ⟨told.alike.config.trans h.config, told.alike.session.trans h.session,
    told.alike.registry.trans h.registry, told.alike.store.trans h.store, sound,
    Relation.ReflTransGen.trans h.logged logged, Frame.accepts told h.accepts⟩

/-- A command loads the same before and after the log has changed files. -/
def Unread (shell : Config) (t : FileTree) (command : Command) : Prop :=
  ∀ later, Logged shell.eventsFile t later → ∀ g : Registry,
    g.load later shell.fragmentGlob command = g.load t shell.fragmentGlob command

theorem unread_of_no_log (without : shell.eventsFile = none) (command : Command) :
    Unread shell t command := by
  intro later logged g
  rw [without] at logged
  induction logged with
  | refl => rfl
  | tail _ step =>
      obtain ⟨file, event, kept, -⟩ := step
      cases kept

theorem Ready.execute {g : Registry} {d : Desk} (h : Ready shell session t g d) {command : Command}
    (loads : command.loads) (unread : Unread shell t command) :
    match g.load t shell.fragmentGlob command with
    | .error e => ((execute command).on d).1 = .error e
    | .ok g' =>
      ((execute command).on d).1 = .ok .goOn ∧
        Ready shell session t g' ((execute command).on d).2 := by
  have one := execute_load h.accepts loads
  have same : d.registry.load d.tree d.config.fragmentGlob command =
      g.load t shell.fragmentGlob command := by
    rw [h.config, h.registry, unread d.tree h.logged]
  rw [same] at one
  cases loaded : g.load t shell.fragmentGlob command with
  | error e => simpa only [loaded] using one
  | ok g' =>
      simp only [loaded] at one
      have ready : Ready shell session t g' { d with registry := g' } :=
        ⟨h.config, h.session, rfl, h.store, h.sound, h.logged, h.accepts⟩
      exact ⟨one.answer, ready.of_told one.told⟩

/-- A row of commands fails first with what loading their fragments one after another fails with. -/
theorem Ready.carryOut {g : Registry} {d : Desk} (h : Ready shell session t g d)
    {commands : List Command} (loads : ∀ command ∈ commands, command.loads)
    (unread : ∀ command ∈ commands, Unread shell t command) :
    match g.loadEach t shell.fragmentGlob commands with
    | .error e => firstFailure (carryOut d commands).1 = some e
    | .ok g' =>
      firstFailure (carryOut d commands).1 = none ∧
        Ready shell session t g' (carryOut d commands).2 := by
  -- By induction on the row. What a failed command leaves does not matter: loading ends there.
  induction commands generalizing g d with
  | nil => exact ⟨rfl, h⟩
  | cons command rest ih =>
      have one := h.execute (loads command List.mem_cons_self) (unread command List.mem_cons_self)
      simp only [Registry.loadEach, List.foldlM_cons, carryOut_cons] at ih ⊢
      cases loaded : g.load t shell.fragmentGlob command with
      | error e =>
          simp only [loaded] at one
          simp only [one, bind, Except.bind, firstFailure]
      | ok g' =>
          simp only [loaded] at one
          obtain ⟨answer, ready⟩ := one
          simp only [answer, bind, Except.bind, firstFailure]
          exact ih ready (fun c member => loads c (List.mem_cons_of_mem _ member))
            (fun c member => unread c (List.mem_cons_of_mem _ member))

theorem Ready.credentials {g : Registry} {d : Desk} (h : Ready shell session t g d)
    {c : Credentials} (stores : session.Stores d.operator c) :
    ((Shell.execute .credentials).on d).1 = .ok .goOn ∧
      Ready shell (session.given c) t g ((Shell.execute .credentials).on d).2 := by
  rw [← h.session] at stores
  obtain ⟨answer, told⟩ := execute_credentials h.accepts stores
  refine ⟨answer, Ready.of_told ?_ told⟩
  exact ⟨h.config, congrArg (·.given c) h.session, h.registry, h.store, h.sound, h.logged,
    h.accepts⟩

theorem ready_of_opening (shell : Config) (t : FileTree) {c : Credentials} {operator : Operator}
    (gives : Session.Gives operator c) (color : Bool) {sink : Sink} (accepts : sink.Accepts)
    (stamp : Audit.Stamp) :
    let opening := carryOut (Desk.new shell color t operator sink stamp) [.new, .credentials]
    opening.1 = [.ok .goOn, .ok .goOn] ∧
      Ready shell ((Session.started shell.firstTaskIndex).given c) t .empty opening.2 := by
  obtain ⟨started, told⟩ :=
    execute_new (d := Desk.new shell color t operator sink stamp) accepts rfl
  have begun : Ready shell (.started shell.firstTaskIndex) t .empty
      ((execute .new).on (Desk.new shell color t operator sink stamp)).2 := by
    refine Ready.of_told ?_ told
    exact ⟨rfl, rfl, rfl, rfl, rfl, .refl, accepts⟩
  have stores : (Session.started shell.firstTaskIndex).Stores
      ((execute .new).on (Desk.new shell color t operator sink stamp)).2.operator c := by
    rw [told.alike.operator, Session.stores_iff]
    exact ⟨rfl, nofun, gives⟩
  obtain ⟨captured, ready⟩ := begun.credentials stores
  simp only [carryOut_cons, started, captured]
  exact ⟨rfl, ready⟩

end Row

end Shell

open Shell Desk

namespace ComposeRequest

namespace Resolved

variable {r : ComposeRequest} {config : Config} {t : FileTree}

theorem loads_of_mem (s : r.Resolved config t) : ∀ command ∈ s.commands, command.loads := by
  intro command member
  simp only [commands, List.mem_append, List.mem_map, Option.mem_toList, Option.map_eq_some_iff]
    at member
  rcases member with (⟨file, -, rfl⟩ | ⟨directory, -, rfl⟩) | ⟨word, -, rfl⟩ <;> rfl

/-- The settings of a shell that authors the task as the request asks: the same index, pattern and
    escaping, and no output directory. A log must not be among the fragments. -/
structure Suits (s : r.Resolved config t) (shell : Config) : Prop where
  index : shell.firstTaskIndex = s.index
  pattern : shell.fragmentGlob = config.fragmentGlob
  escaped : shell.escapeCredentials = config.escapeCredentials
  unwritten : shell.outputDirectory = none
  unread : ∀ command ∈ s.commands, Unread shell t command

end Resolved

/-- Composing agrees with a shell that is led through a new task, the credentials of the request,
    the commands that load what it names, and the completion. The first of the loading commands that
    fails fails with what composing fails with. If none fails, composing makes the same task a script
    as the completion does, which leaves that script alone in the store and no subtasks. -/
theorem compose_agrees_with_shell {r : ComposeRequest} {config : Config} {t : FileTree}
    (s : r.Resolved config t) {shell : Config} (suits : s.Suits shell) {operator : Operator}
    (gives : Session.Gives operator s.credentials) {sink : Sink} (accepts : sink.Accepts)
    (color : Bool) (stamp stamp' : Audit.Stamp) :
    let opening := carryOut (Desk.new shell color t operator sink stamp) [.new, .credentials]
    let loading := carryOut opening.2 s.commands
    let closing := carryOut loading.2 [.complete]
    opening.1 = [.ok .goOn, .ok .goOn] ∧
    (∀ e, firstFailure loading.1 = some e → (r.run config t stamp').1 = .error e) ∧
    (firstFailure loading.1 = none →
      ∃ task, (r.run config t stamp').1 = .ok task ∧ task.index = s.index ∧
        closing.1 = [.ok .goOn] ∧ completed? loading.2 = some task ∧
        closing.2.store.scripts = [(task.script.key, task.script.text)] ∧
        closing.2.registry = .empty) := by
  intro opening loading closing
  obtain ⟨opened, ready⟩ := ready_of_opening shell t gives color accepts stamp
  refine ⟨opened, ?_⟩
  have loaded : match Registry.empty.loadEach t shell.fragmentGlob s.commands with
      | .error e => firstFailure loading.1 = some e
      | .ok g => firstFailure loading.1 = none ∧ Ready shell s.session t g loading.2 := by
    rw [suits.index] at ready
    exact ready.carryOut s.loads_of_mem suits.unread
  rw [fst_run, s.compose_eq, ← suits.pattern]
  cases result : Registry.empty.loadEach t shell.fragmentGlob s.commands with
  | error e =>
      simp only [result] at loaded
      rw [loaded]
      exact ⟨fun _ same => congrArg Except.error (Option.some.inj same), nofun⟩
  | ok g =>
      simp only [result] at loaded
      obtain ⟨succeeds, ready⟩ := loaded
      rw [succeeds]
      refine ⟨nofun, fun _ => ?_⟩
      have completed : completed? loading.2 =
          some (s.session.task s.index g config.escapeCredentials) := by
        unfold completed?
        rw [ready.session, ready.registry, ready.config, suits.escaped]
        rfl
      obtain ⟨answer, told⟩ := execute_complete ready.accepts completed (by
        rw [ready.config, suits.unwritten])
      refine ⟨_, rfl, rfl, ?_, completed, ?_, told.alike.registry⟩
      · exact congrArg (fun a => [a]) answer
      · have store := told.alike.store
        rw [scripted, ready.store] at store
        exact congrArg (·.scripts) store

/-- The profile names the computer and a fragment, which the request replaces by one of its own. -/
theorem compose_agrees_with_shell_at_replaced_fragment :
    let r : ComposeRequest :=
      ⟨some "job/job.yaml", none, some "user", none, some 7, ["open=other.au3"], none⟩
    let shell := { Config.default with firstTaskIndex := 7 }
    let operator : Operator := .scripted [.ok "host", .ok "user", .ok ""] []
    ∃ (t : FileTree) (s : r.Resolved .default t) (task : CompletedTask),
      s.Suits shell ∧ Session.Gives operator s.credentials ∧
      s.commands = [.subtask "open" "job/open.au3", .subtask "open" "other.au3"] ∧
      (r.run .default t ⟨⟨0, 0, 0⟩, "me"⟩).1 = .ok task ∧
      let opening := carryOut (Desk.new shell false t operator .unlimited ⟨⟨0, 0, 0⟩, "me"⟩)
        [.new, .credentials]
      let loading := carryOut opening.2 s.commands
      loading.1 = [.ok .goOn, .ok .goOn] ∧ completed? loading.2 = some task := by
  intro r shell operator
  let file (path : List String) (text : String) : Place × Entry :=
    (path.map Utf8.encode, .file (Utf8.encode text))
  -- The files get a name, so that only the steps below that need them look into them.
  obtain ⟨t, files⟩ : ∃ t : FileTree, t = ⟨[([Utf8.encode "job"], .directory),
      file ["job", "job.yaml"] "computer: host\nsubtasks:\n  open: open.au3\n",
      file ["job", "open.au3"] "Run()\n", file ["other.au3"] "Stop()\n"], []⟩ := ⟨_, rfl⟩
  have values : (r.loadProfile t).toOption.map (fun x =>
      (x.1.computer, x.1.username, x.1.password, x.2)) =
      some (some "host", none, none, Path.ofString "job") := by
    rw [files]
    decide +kernel
  have texts : (r.loadProfile t).toOption.map (fun x =>
      x.1.subtasks.map fun entry => (entry.1.text?, entry.2.text?)) =
      some [(some "open", some "open.au3")] := by
    rw [files]
    decide +kernel
  rcases read : r.loadProfile t with e | ⟨profile, base⟩
  · rw [read] at values
    cases values
  rw [read] at values texts
  simp only [Except.toOption, Option.map_some, Option.some.injEq, Prod.mk.injEq] at values texts
  obtain ⟨computer, username, password, rfl⟩ := values
  let s : r.Resolved .default t :=
    { profile, base := Path.ofString "job", index := 7, computer := "host",
      files := [("open", "open.au3")], words := [("open", "other.au3")], read, texts
      chosen := rfl
      positive := by decide
      target := computer
      joined := rfl
      wellFormed := by decide }
  have suits : s.Suits shell :=
    ⟨rfl, rfl, rfl, rfl, fun command _ => unread_of_no_log rfl command⟩
  have gives : Session.Gives operator s.credentials := by
    refine ⟨[], ?_⟩
    simp only [Resolved.credentials, s, password]
    rfl
  have commands : s.commands = [.subtask "open" "job/open.au3", .subtask "open" "other.au3"] := by
    have typed : ((Path.ofString "job").join (Path.ofString "open.au3")).display =
        "job/open.au3" := by
      decide +kernel
    change [Command.subtask "open" ((Path.ofString "job").join (Path.ofString "open.au3")).display,
      _] = _
    rw [typed]
  have accepts : Sink.unlimited.Accepts := fun _ _ _ => rfl
  obtain ⟨-, -, agrees⟩ := compose_agrees_with_shell s suits gives accepts false
    ⟨⟨0, 0, 0⟩, "me"⟩ ⟨⟨0, 0, 0⟩, "me"⟩
  have answers : (carryOut (carryOut (Desk.new shell false t operator .unlimited
      ⟨⟨0, 0, 0⟩, "me"⟩) [.new, .credentials]).2 s.commands).1 = [.ok .goOn, .ok .goOn] := by
    rw [commands, files]
    decide +kernel
  obtain ⟨task, composed, -, -, completed, -, -⟩ := agrees (by rw [answers]; rfl)
  exact ⟨t, s, task, suits, gives, commands, composed, answers, completed⟩

end ComposeRequest

end RemoteDesk
