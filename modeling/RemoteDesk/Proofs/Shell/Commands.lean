import RemoteDesk.Proofs.Session.Operations
import RemoteDesk.Proofs.Shell.Talk

/-! # What a command does

A command makes its change first and talks about it afterwards, so the change is made whether or not
the talk gets through. Here the commands are cut into what they can do to the session, the subtasks,
the counter and the scripts; only a task that becomes a script touches the last two.
-/

namespace RemoteDesk.Shell

open Desk Desk.Action

/-- The desk once a task has become a script. -/
def scripted (d : Desk) (task : CompletedTask) : Desk :=
  { d with
    session := .cleared .completed
    registry := .empty
    store := d.store.add task.script.key task.script.text
    counter := d.counter.advance }

/-- The desk once that is recorded too. -/
def finished (d : Desk) (task : CompletedTask) : Desk :=
  (scripted d task).record (completeDeed task)

/-- The task that completing at this desk makes a script. -/
def completed? (d : Desk) : Option CompletedTask :=
  (d.session.complete d.registry d.store d.config.escapeCredentials).1.toOption

theorem completed?_eq_some {d : Desk} {task : CompletedTask} (h : completed? d = some task) :
    ∃ index, d.session.taskIndex = some index ∧ d.session.assigned ∧
      task = d.session.task index d.registry d.config.escapeCredentials := by
  unfold completed? at h
  rcases d.session.complete_cases d.registry d.store d.config.escapeCredentials with
    ⟨index, indexed, assigned, accepted⟩ | ⟨-, refused⟩
  · rw [accepted] at h
    exact ⟨index, indexed, assigned, (Option.some.inj h).symm⟩
  · rw [refused] at h
    cases h

theorem finished_alike (d : Desk) (task : CompletedTask) :
    (scripted d task).Alike (finished d task) :=
  record_alike _ _

theorem finished_get? (d : Desk) (task : CompletedTask) :
    (finished d task).store.get? task.script.key = some task.script.text := by
  rw [(finished_alike d task).store]
  exact Catalog.get?_put_self _ _ _

/-- The file that the script under a key is written to at this desk, if it is. -/
def file? (d : Desk) (key : String) : Option Path :=
  match ((writeScript key).on d).1 with
  | .ok path => path
  | .error _ => none

/-- What a command that makes no script can do to the session. -/
inductive Moves (d : Desk) : Session → Prop where
  | stays : Moves d d.session
  | starts (idle : d.session.activeIndex? = none) : Moves d (.started d.counter.value)
  | captures (c : Credentials) (active : d.session.isActive) : Moves d (d.session.given c)
  | discards (index : UInt32) (active : d.session.activeIndex? = some index) :
      Moves d (.cleared .discarded)

/-- What a command can do to a desk, with the task that it made a script. -/
inductive Effect (d d' : Desk) : Option CompletedTask → Prop where
  | authors (session : Session) (registry : Registry) (operator : Operator)
      (moves : Moves d session) (alike : { d with session, registry, operator }.Alike d') :
      Effect d d' none
  | completes (task : CompletedTask) (completed : completed? d = some task)
      (echoed : ((writeScript task.script.key).on (finished d task)).2.Echoed d') :
      Effect d d' (some task)

theorem Effect.of_talk {d d' : Desk} (h : d.Alike d') : Effect d d' none :=
  .authors d.session d.registry d.operator .stays h

theorem Effect.of_move {d d' : Desk} {session : Session} (moves : Moves d session)
    (alike : { d with session }.Alike d') : Effect d d' none :=
  .authors session d.registry d.operator moves alike

/-- A command that only talks after its first action does what the first action does. -/
theorem Effect.of_first {α β : Type} {f : Desk → Except DeskError α × Desk} {a : Action β}
    (talks : TalksAfter f a) {d : Desk} (first : ∀ d', (f d).2.Alike d' → Effect d d' none) :
    Effect d (a.on d).2 none :=
  first _ (talks.leads d).alike

/-! ## Commands one by one -/

theorem startTask_effect (d : Desk) : Effect d (startTask.on d).2 none := by
  refine .of_first startTask_speaks.talksAfter fun d' alike => ?_
  rcases d.session.start_cases d.counter with ⟨index, -, refused⟩ | ⟨idle, accepted⟩
  · rw [refused] at alike
    exact .of_talk alike
  · rw [accepted] at alike
    exact .of_move (.starts idle) alike

theorem discardTask_effect (d : Desk) : Effect d (discardTask.on d).2 none := by
  refine .of_first discardTask_speaks.talksAfter fun d' alike => ?_
  rcases d.session.discard_cases with ⟨index, active, accepted⟩ | ⟨-, refused⟩
  · rw [accepted] at alike
    exact .of_move (.discards index active) alike
  · rw [refused] at alike
    exact .of_talk alike

theorem captureCredentials_effect (d : Desk) : Effect d (captureCredentials.on d).2 none := by
  refine .of_first captureCredentials_speaks.talksAfter fun d' alike => ?_
  rcases d.session.capture_cases d.operator with
    ⟨e, o, failed⟩ | ⟨o, kept⟩ | ⟨c, o, active, -, stored⟩
  · rw [failed] at alike
    exact .authors d.session d.registry o .stays alike
  · rw [kept] at alike
    exact .authors d.session d.registry o .stays alike
  · rw [stored] at alike
    exact .authors _ d.registry o (.captures c active) alike

theorem addSubtask_effect (id : String) (path : Path) (d : Desk) :
    Effect d ((addSubtask id path).on d).2 none := by
  refine .of_first (addSubtask_speaks id path).talksAfter fun d' alike => ?_
  cases loaded : d.registry.loadFile d.tree id path with
  | error e =>
      simp only [loaded] at alike
      exact .of_talk alike
  | ok registry =>
      simp only [loaded] at alike
      exact .authors d.session registry d.operator .stays alike

theorem addDirectory_effect (directory : Path) (d : Desk) :
    Effect d ((addDirectory directory).on d).2 none :=
  .of_first (addDirectory_speaks directory).talksAfter fun _ alike =>
    .authors d.session _ d.operator .stays alike

theorem on_addDirectory_of_error {d : Desk} {directory : Path} {e : DeskError} {registry : Registry}
    (refused : d.registry.loadDirectory d.tree directory d.config.fragmentGlob =
      (.error e, registry)) :
    (addDirectory directory).on d = (.error e, { d with registry }) := by
  refine on_bind_error ?_ _
  rw [on_of, refused]

theorem on_addDirectory_of_cons {d : Desk} {directory : Path} {id : String} {rest : List String}
    {registry : Registry}
    (loaded : d.registry.loadDirectory d.tree directory d.config.fragmentGlob =
      (.ok (id :: rest), registry)) :
    (addDirectory directory).on d = (announceAll directory (id :: rest)).on { d with registry } := by
  unfold addDirectory
  rw [on_bind, on_of]
  simp only [loaded]

/-! ## Completing a task -/

theorem turnIn_cases (d : Desk) :
    (∃ task, completed? d = some task ∧ turnIn d = (.ok task, scripted d task)) ∨
    (completed? d = none ∧ turnIn d = (.error (.refused .credentialsMissing), d)) := by
  unfold completed? turnIn
  rcases d.session.complete_cases d.registry d.store d.config.escapeCredentials with
    ⟨index, -, -, accepted⟩ | ⟨-, refused⟩
  · rw [accepted]
    exact .inl ⟨_, rfl, rfl⟩
  · rw [refused]
    exact .inr ⟨rfl, rfl⟩

/-- A task becomes a script if the session has an index and credentials. Then it is finished and
    recorded, its script is written if it shall be, and the rest is output. -/
theorem on_completeTask (d : Desk) :
    (∃ task, completed? d = some task ∧
      completeTask.on d = (writeScript task.script.key >>= closing task).on (finished d task)) ∨
    (completed? d = none ∧
      completeTask.on d = (.error (.refused .credentialsMissing), d)) := by
  rw [completeTask_eq]
  rcases turnIn_cases d with ⟨task, completed, accepted⟩ | ⟨missing, refused⟩
  · refine .inl ⟨task, completed, ?_⟩
    rw [on_bind_ok (show (of turnIn).on d = _ from accepted), on_bind_ok (on_record _ _)]
    rfl
  · exact .inr ⟨missing, on_bind_error (show (of turnIn).on d = _ from refused) _⟩

theorem completeTask_cases (d : Desk) :
    (∃ task, completed? d = some task ∧
      ((writeScript task.script.key).on (finished d task)).2.Echoed (completeTask.on d).2) ∨
    (completed? d = none ∧ (completeTask.on d).2 = d) := by
  rcases on_completeTask d with ⟨task, completed, same⟩ | ⟨missing, same⟩
  · refine .inl ⟨task, completed, ?_⟩
    rw [same]
    exact Within.after_of (fun path => (closing_talk task path).within_echoed) _
  · exact .inr ⟨missing, by rw [same]⟩

/-- Writing a script changes only files and which scripts count as written. -/
theorem writeScript_frame (d : Desk) (key : String) :
    ∃ tree faults written, ((writeScript key).on d).2 = { d with tree, faults, written } := by
  unfold writeScript
  rw [on_of]
  cases d.config.outputDirectory with
  | none => exact ⟨d.tree, d.faults, d.written, rfl⟩
  | some directory =>
      simp only
      rcases d.change_cases fun t =>
          d.store.write t key (Path.ofString directory) d.config.scriptExtension with
        ⟨fault, later, faults, broken⟩ | carried
      · exact ⟨fault.left, later, d.written, by rw [broken]⟩
      · rw [carried]
        rcases (d.store.write d.tree key (Path.ofString directory) d.config.scriptExtension).1 with
          e | _ | path <;> exact ⟨_, _, _, rfl⟩

/-- A script that the store has is written nowhere, or it is the whole content of its file then, or
    the disk or the file tree refuses it. -/
theorem writeScript_cases {d : Desk} {key text : String} (kept : d.store.get? key = some text) :
    (d.config.outputDirectory = none ∧ (writeScript key).on d = (.ok none, d)) ∨
    ∃ directory, d.config.outputDirectory = some directory ∧
      let path := Store.scriptPath (Path.ofString directory) key d.config.scriptExtension
      ((∃ tree, d.tree.replace path (Utf8.encode text) = (.ok (), tree) ∧
        (writeScript key).on d = (.ok (some path),
          { d with tree, faults := d.faults.tail, written := key :: d.written })) ∨
      ∃ e tree faults, (writeScript key).on d = (.error e, { d with tree, faults }) ∧
        ((∃ fault, d.faults.head? = some (some fault) ∧ e = .reported .io fault.message ∧
            tree = fault.left) ∨
          d.tree.replace path (Utf8.encode text) = (.error e, tree))) := by
  unfold writeScript
  rw [on_of]
  cases configured : d.config.outputDirectory with
  | none => exact .inl ⟨rfl, rfl⟩
  | some directory =>
      refine .inr ⟨directory, rfl, ?_⟩
      intro path
      have write (t : FileTree) : d.store.write t key (Path.ofString directory)
          d.config.scriptExtension =
            ((t.replace path (Utf8.encode text)).1.map fun () => some path,
              (t.replace path (Utf8.encode text)).2) := by
        simp only [Store.write, kept]
        rfl
      rcases d.change_cases fun t =>
          d.store.write t key (Path.ofString directory) d.config.scriptExtension with
        ⟨fault, later, faults, broken⟩ | carried
      · refine .inr ⟨.reported .io fault.message, fault.left, later, ?_,
          .inl ⟨fault, by rw [faults]; rfl, rfl, rfl⟩⟩
        simp only [broken]
      · rw [write] at carried
        rcases replaced : d.tree.replace path (Utf8.encode text) with ⟨e | ⟨⟩, tree⟩
        · refine .inr ⟨e, tree, d.faults.tail, ?_, .inr rfl⟩
          simp only [carried, replaced, Except.map]
        · refine .inl ⟨tree, rfl, ?_⟩
          simp only [carried, replaced, Except.map]

/-- A script counts as written exactly when it is written. -/
theorem written_writeScript {d : Desk} {key text : String} (kept : d.store.get? key = some text) :
    ((writeScript key).on d).2.written =
      if (file? d key).isSome then key :: d.written else d.written := by
  unfold file?
  rcases writeScript_cases kept with
    ⟨-, same⟩ | ⟨directory, -, ⟨tree, -, same⟩ | ⟨e, tree, faults, same, -⟩⟩ <;> rw [same] <;> rfl

/-- Up to files, output and audit log, this is the desk after a completion. -/
theorem alike_of_completes {d d' : Desk} {task : CompletedTask}
    (echoed : ((writeScript task.script.key).on (finished d task)).2.Echoed d') :
    Desk.Alike
      { scripted d task with
        written :=
          if (file? (finished d task) task.script.key).isSome then task.script.key :: d.written
          else d.written }
      d' := by
  have recorded := finished_alike d task
  have written := written_writeScript (finished_get? d task)
  obtain ⟨tree, faults, marked, same⟩ := writeScript_frame (finished d task) task.script.key
  rw [recorded.written, same] at written
  refine .trans ?_ echoed.alike
  rw [same]
  exact ⟨recorded.config, recorded.palette, recorded.session, recorded.registry, recorded.counter,
    recorded.store, written, recorded.operator, recorded.stamp, recorded.refusal⟩

end RemoteDesk.Shell
