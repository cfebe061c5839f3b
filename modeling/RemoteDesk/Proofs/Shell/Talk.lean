import RemoteDesk.Proofs.Shell.Actions

/-! # What commands are made of

After its first action a command only talks: it looks at the desk, though never at the output, hands
texts to the output and deeds to the audit log. So talk fails only because of the output, and where
no log is kept it changes nothing but the output. A completion is the one command with a second
action that does something, the writing of its script.
-/

namespace RemoteDesk

namespace Desk

namespace Action

/-- What looks, hands over texts and, if it is `recording`, deeds, and nothing else. -/
inductive Talk (recording : Bool) : {α : Type} → Action α → Prop where
  | pure {α : Type} (x : α) : Talk recording (Pure.pure x)
  | look {α : Type} {f : Desk → α} (deaf : ∀ d sink, f { d with sink } = f d) :
      Talk recording (look f)
  | bind {α β : Type} {a : Action α} {f : α → Action β} (first : Talk recording a)
      (rest : ∀ x, Talk recording (f x)) : Talk recording (a >>= f)
  | emit (text : String) : Talk recording (emit text)
  | record (deed : Audit.Deed) (allowed : recording) : Talk recording (record deed)

namespace Talk

variable {recording : Bool} {α : Type} {a : Action α}

theorem emitLine (text : String) : Talk recording (emitLine text) :=
  .bind (.emit text) fun _ => .emit "\n"

theorem emitPainted (color : Color) (text : String) : Talk recording (emitPainted color text) :=
  .bind (.look fun _ _ => rfl) fun _ => .emitLine _

theorem told (h : Talk recording a) : Within Told a := by
  induction h with
  | pure x => exact .pure x
  | look _ => exact .look _
  | bind _ _ first rest => exact first.bind rest
  | emit text => exact (Within.emit text).told
  | record deed _ => exact .record deed

/-- Talk fails only if the output refuses a text. -/
theorem kind_of_error (h : Talk recording a) {d : Desk} {e : DeskError}
    (failed : (a.on d).1 = .error e) : e.kind = .io := by
  induction h generalizing d with
  | pure x => cases failed
  | look _ => cases failed
  | record deed _ => cases failed
  | emit text =>
      simp only [Action.emit, on_of, Sink.write] at failed
      split at failed
      · cases failed
      · cases failed
        rfl
  | @bind α β a f _ _ first rest =>
      rcases answered : a.on d with ⟨e' | x, d'⟩
      · rw [on_bind_error answered] at failed
        obtain rfl := Except.error.inj failed
        exact first (by rw [answered])
      · rw [on_bind_ok answered] at failed
        exact rest x failed

/-- Talk that records nothing changes nothing but the output, and nor does any other where no log is
    kept. -/
theorem echoed (h : Talk recording a) {d : Desk}
    (unlogged : recording → d.config.eventsFile = none) : d.Echoed (a.on d).2 := by
  induction h generalizing d with
  | pure x => exact Frame.refl d
  | look _ => exact Frame.refl d
  | emit text => exact (Within.emit text).leads d
  | record deed allowed =>
      rw [on_record, Desk.record, unlogged allowed]
      exact Frame.refl d
  | @bind α β a f _ _ first rest =>
      have one := first unlogged
      rcases answered : a.on d with ⟨e | x, d'⟩
      · rw [on_bind_error answered]
        rwa [answered] at one
      · rw [on_bind_ok answered]
        rw [answered] at one
        exact Frame.trans one (rest x fun allowed => by rw [one.alike.config, unlogged allowed])

theorem within_echoed (h : Talk false a) : Within Echoed a :=
  ⟨fun _ => h.echoed nofun, h.told.done⟩

end Talk

/-- The action makes a change first, and all the rest is talk. -/
def Speaks {α β : Type} (f : Desk → Except DeskError α × Desk) (a : Action β) : Prop :=
  ∃ talk : α → Action β, (∀ x, Talk true (talk x)) ∧ a = .of f >>= talk

namespace Speaks

variable {α β : Type} {f : Desk → Except DeskError α × Desk} {a : Action β}

theorem talksAfter (h : Speaks f a) : TalksAfter f a := by
  obtain ⟨talk, talks, rfl⟩ := h
  exact ⟨talk, fun x => (talks x).told, rfl⟩

/-- Where no log is kept, what follows the first action changes nothing but the output. -/
theorem echoed (h : Speaks f a) {d : Desk} (unlogged : (f d).2.config.eventsFile = none) :
    (f d).2.Echoed (a.on d).2 := by
  obtain ⟨talk, talks, rfl⟩ := h
  rcases answered : f d with ⟨e | x, d'⟩
  · rw [on_bind_error (show (of f).on d = _ from answered)]
    exact Frame.refl d'
  · rw [answered] at unlogged
    rw [on_bind_ok (show (of f).on d = _ from answered)]
    exact (talks x).echoed fun _ => unlogged

/-- What is not a failure of the output is a failure of the first action. -/
theorem first_of_error (h : Speaks f a) {d d' : Desk} {e : DeskError}
    (failed : a.on d = (.error e, d')) (kind : e.kind ≠ .io) : f d = (.error e, d') := by
  obtain ⟨talk, talks, rfl⟩ := h
  rcases answered : f d with ⟨e' | x, d₁⟩
  · rw [on_bind_error (show (of f).on d = _ from answered)] at failed
    cases failed
    rfl
  · rw [on_bind_ok (show (of f).on d = _ from answered)] at failed
    exact absurd ((talks x).kind_of_error (congrArg Prod.fst failed)) kind

end Speaks

end Action

end Desk

namespace Shell

open Desk Desk.Action

/-! ## Commands one by one -/

theorem startTask_speaks :
    Speaks
      (fun d => ((d.session.start d.counter).1.mapError SessionError.toDeskError,
        { d with session := (d.session.start d.counter).2 }))
      startTask :=
  ⟨_, fun _ => .bind (.record _ rfl) fun _ => .emitLine _, rfl⟩

theorem discardTask_speaks :
    Speaks
      (fun d => (d.session.discard.1.mapError SessionError.toDeskError,
        { d with session := d.session.discard.2 }))
      discardTask :=
  ⟨_, fun _ => .bind (.record _ rfl) fun _ => .emitLine _, rfl⟩

variable {recording : Bool}

theorem showUnder_talk (heading : String) (c : Credentials) :
    Talk recording (showUnder heading c) :=
  .bind (.emitLine heading) fun _ => .bind (.look fun _ _ => rfl) fun _ => .emit _

/-- Looking for credentials to show, and showing them or not. -/
theorem shown_talk {rest : Option Credentials → Action Unit}
    (talk : ∀ shown, Talk recording (rest shown)) :
    Talk recording (look (·.session.shown?) >>= rest) :=
  .bind (.look fun _ _ => rfl) talk

theorem showCredentials_talk : Talk recording showCredentials := by
  refine shown_talk fun shown => ?_
  cases shown with
  | some c => exact showUnder_talk _ c
  | none => exact .emitPainted _ _

/-- What a capture shows where there were credentials before. -/
theorem details_talk :
    Talk recording (do
      match ← look (·.session.shown?) with
      | some c => showUnder "[!] RemoteDesktop Details" c
      | none => pure ()) := by
  refine shown_talk fun shown => ?_
  cases shown with
  | some c => exact showUnder_talk _ c
  | none => exact .pure ()

theorem captureCredentials_speaks :
    Speaks
      (fun d => ((d.session.capture d.operator).1.mapError SessionError.toDeskError,
        { d with
          session := (d.session.capture d.operator).2.1
          operator := (d.session.capture d.operator).2.2 }))
      captureCredentials := by
  have recorded {rest : Unit → Action Unit} (overwrite : Bool) (talk : ∀ x, Talk true (rest x)) :
      Talk true (do
        let s ← look (·.session)
        record (credentialsDeed s overwrite) >>= rest) :=
    .bind (.look fun _ _ => rfl) fun _ => .bind (.record _ rfl) talk
  refine ⟨_, fun outcome => ?_, rfl⟩
  cases outcome with
  | captured => exact recorded false fun _ => .pure ()
  | overwritten => exact recorded true fun _ => details_talk
  | kept => exact details_talk

theorem announceSubtask_talk (id : String) (source : Path) :
    Talk true (announceSubtask id source) :=
  .bind (.record _ rfl) fun _ => .emitLine _

theorem announceAll_talk (source : Path) (ids : List String) :
    Talk true (announceAll source ids) := by
  induction ids with
  | nil => exact .pure ()
  | cons id rest ih => exact .bind (announceSubtask_talk id source) fun _ => ih

theorem addSubtask_speaks (id : String) (path : Path) :
    Speaks
      (fun d =>
        match d.registry.loadFile d.tree id path with
        | .error e => (.error e, d)
        | .ok registry => (.ok (), { d with registry }))
      (addSubtask id path) :=
  ⟨_, fun _ => announceSubtask_talk id path, rfl⟩

theorem addDirectory_speaks (directory : Path) :
    Speaks
      (fun d => ((d.registry.loadDirectory d.tree directory d.config.fragmentGlob).1,
        { d with
          registry := (d.registry.loadDirectory d.tree directory d.config.fragmentGlob).2 }))
      (addDirectory directory) := by
  refine ⟨_, fun ids => ?_, rfl⟩
  cases ids with
  | nil => exact .bind (.look fun _ _ => rfl) fun _ => .emitPainted _ _
  | cons id rest => exact announceAll_talk directory (id :: rest)

theorem listSubtasks_talk : Talk recording listSubtasks :=
  .bind (.look fun _ _ => rfl) fun _ => .emit _

theorem listTasks_talk : Talk recording listTasks := by
  refine .bind (.look fun _ _ => rfl) fun keys => ?_
  cases keys with
  | nil => exact .emitLine _
  | cons key rest => exact .bind (.look fun _ _ => rfl) fun _ => .emit _

/-- What is said once a task is a script and written, if it shall be. -/
def closing (task : CompletedTask) (path : Option Path) : Action Unit := do
  match path with
  | some path => emitLine ("[+] Wrote " ++ path.display)
  | none => pure ()
  emitPainted .green ("[+] Completed : '" ++ task.script.key ++ "'")

theorem closing_talk (task : CompletedTask) (path : Option Path) :
    Talk recording (closing task path) := by
  cases path with
  | some path => exact .bind (.emitLine _) fun _ => .emitPainted _ _
  | none => exact .emitPainted _ _

/-- The session makes the task a script, and the counter moves on. -/
def turnIn (d : Desk) : Except DeskError CompletedTask × Desk :=
  let (result, session, registry, store) :=
    d.session.complete d.registry d.store d.config.escapeCredentials
  match result with
  | .error e => (.error e.toDeskError, { d with session, registry, store })
  | .ok task => (.ok task, { d with session, registry, store, counter := d.counter.advance })

theorem completeTask_eq :
    completeTask = (do
      let task ← .of turnIn
      record (completeDeed task)
      let path ← writeScript task.script.key
      closing task path) := by
  rfl

end Shell

end RemoteDesk
