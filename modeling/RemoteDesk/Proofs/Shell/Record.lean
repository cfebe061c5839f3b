import RemoteDesk.Proofs.Audit.Life
import RemoteDesk.Proofs.Shell.Coupling

/-! # What a turn leaves in the log

A command that the session accepts records its transition right after it, before anything is said
about it. So neither a refused text nor a script that cannot be written comes between the two, and
what a turn adds to the log depends on the session and on whether the log takes the event.
-/

namespace RemoteDesk

namespace Session

/-- What a session knows of the task that is being authored, passwords aside. -/
def standing? (s : Session) : Option Audit.Standing :=
  s.activeIndex?.map fun index =>
    ⟨index, s.credentials?.map fun c => (c.computer, c.username)⟩

theorem isSome_credentials? (s : Session) : s.credentials?.isSome = s.assigned := by
  unfold credentials?
  cases s.assigned <;> rfl

theorem standing?_of_idle {s : Session} (h : s.activeIndex? = none) : s.standing? = none := by
  rw [standing?, h, Option.map_none]

theorem standing?_of_active {s : Session} {index : UInt32} (h : s.activeIndex? = some index) :
    s.standing? = some ⟨index, s.credentials?.map fun c => (c.computer, c.username)⟩ := by
  rw [standing?, h, Option.map_some]

/-- The activity, the index and the credentials of a session can be read off its standing. -/
theorem Coherent.standing? {s : Session} (h : s.Coherent) :
    s.standing?.isSome = s.isActive ∧ s.standing?.map (·.index) = s.taskIndex ∧
      s.standing?.bind (·.given) = s.credentials?.map fun c => (c.computer, c.username) := by
  refine ⟨?_, ?_, ?_⟩
  · rw [Session.standing?, Option.isSome_map, h.activeIndex?, h.indexed]
  · rw [Session.standing?, Option.map_map, h.activeIndex?]
    exact Option.map_id'
  · cases indexed : s.taskIndex with
    | some index => rw [standing?_of_active (h.activeIndex?.trans indexed), Option.bind_some]
    | none =>
        have inactive : s.isActive = false := by
          rw [← h.indexed, indexed]
          rfl
        have unassigned : s.assigned = false := by
          rw [h.assigned, decide_eq_false_iff_not]
          intro phase
          rw [isActive, phase] at inactive
          cases inactive
        rw [standing?_of_idle (h.activeIndex?.trans indexed), credentials?, unassigned]
        rfl

end Session

namespace Desk

open Audit

/-! ## Records -/

/-- There is a log, and it takes an event with this deed now. -/
def logs (d : Desk) (deed : Deed) : Bool :=
  match d.config.eventsFile with
  | none => false
  | some file =>
    match d.faults with
    | some _ :: _ => false
    | _ => (Audit.append d.tree (Path.ofString file) ⟨d.stamp, deed⟩).1.isOk

theorem logs_eq {d : Desk} {file : String} (log : d.config.eventsFile = some file) (deed : Deed) :
    d.logs deed =
      (d.change fun t => Audit.append t (Path.ofString file) ⟨d.stamp, deed⟩).1.isOk := by
  unfold logs change
  rw [log]
  rcases d.faults with _ | ⟨_ | fault, later⟩ <;> rfl

theorem recorded_change {α : Type} (d : Desk) (f : FileTree → Except DeskError α × FileTree) :
    (d.change f).2.recorded = d.recorded := by
  rcases d.change_cases f with ⟨fault, later, -, broken⟩ | done
  · rw [broken]
  · rw [done]

theorem recorded_record (d : Desk) (deed : Deed) :
    (d.record deed).recorded = d.recorded ++ if d.logs deed then [⟨d.stamp, deed⟩] else [] := by
  unfold record
  cases log : d.config.eventsFile with
  | none =>
      have lost : d.logs deed = false := by rw [logs, log]
      rw [lost]
      exact (List.append_nil _).symm
  | some file =>
      have same := d.recorded_change fun t => Audit.append t (Path.ofString file) ⟨d.stamp, deed⟩
      rw [logs_eq log]
      rcases appended : d.change fun t => Audit.append t (Path.ofString file) ⟨d.stamp, deed⟩ with
        ⟨e | ⟨⟩, d'⟩ <;> rw [appended] at same <;> simp only [appended]
      · exact same.trans (List.append_nil _).symm
      · exact congrArg (· ++ [⟨d.stamp, deed⟩]) same

theorem Echoed.recorded {d d' : Desk} (h : d.Echoed d') : d'.recorded = d.recorded := by
  obtain ⟨sink, -, rfl⟩ := h
  rfl

/-- The session is as before, and the log has nothing new about tasks. -/
structure Tacit (d d' : Desk) : Prop where
  session : d'.session = d.session
  told : taskDeeds d'.recorded = taskDeeds d.recorded
  refusal : d'.sink.refusal = d.sink.refusal

instance : Frame Tacit where
  refl := fun _ => ⟨rfl, rfl, rfl⟩
  trans := fun h h' =>
    ⟨h'.session.trans h.session, h'.told.trans h.told, h'.refusal.trans h.refusal⟩
  refusal := fun h => h.refusal

theorem Echoed.tacit {d d' : Desk} (h : d.Echoed d') : d.Tacit d' :=
  ⟨h.alike.session, congrArg taskDeeds h.recorded, h.alike.refusal⟩

theorem Action.Within.tacit {α : Type} {a : Action α} (h : Within Echoed a) : Within Tacit a :=
  ⟨fun d => (h.leads d).tacit, h.done⟩

/-- Registering a subtask is nothing that happens to a task. -/
theorem record_tacit (d : Desk) (id : String) (source : Path) :
    d.Tacit (d.record (Shell.subtaskDeed id source)) := by
  have alike := d.record_alike (Shell.subtaskDeed id source)
  refine ⟨alike.session, ?_, alike.refusal⟩
  rw [recorded_record, taskDeeds_append]
  split <;> exact List.append_nil _

end Desk

namespace Shell

open Audit Desk Desk.Action

/-! ## Transitions -/

/-- The transition that a command makes, if the session accepts it. -/
def accepted? (d : Desk) : Command → Option Transition
  | .new => (d.session.start d.counter).1.toOption.map .start
  | .credentials =>
    match d.session.capture d.operator with
    | (.ok .captured, s, _) =>
      s.taskIndex.map (.credentials · s.stored.computer s.stored.username false)
    | (.ok .overwritten, s, _) =>
      s.taskIndex.map (.credentials · s.stored.computer s.stored.username true)
    | (.ok .kept, _, _) | (.error _, _, _) => none
  | .complete => (completed? d).map fun task => .complete task.index task.subtasks
  | .discard => d.session.discard.1.toOption.map .discard
  | _ => none

def transition? (d : Desk) (r : Reading) : Option Transition :=
  r.command?.bind (accepted? d)

/-- What has been done to a desk when a transition has been made, if one has: the log has got it if
    it takes it, and the session stands where the transition leads. -/
structure Takes (d d' : Desk) (t : Option Transition) : Prop where
  told : taskDeeds d'.recorded =
    taskDeeds d.recorded ++ ((t.filter (d.logs ·.deed)).map (·.deed)).toList
  followed : t.elim (some d.session.standing?) (follow d.session.standing?) =
    some d'.session.standing?

theorem Takes.of_tacit {d d' : Desk} (h : d.Tacit d') : Takes d d' none := by
  refine ⟨?_, ?_⟩
  · rw [h.told]
    exact (List.append_nil _).symm
  · rw [h.session]
    rfl

theorem Takes.tacit {d d' d'' : Desk} {t : Option Transition} (h : Takes d d' t)
    (tacit : d'.Tacit d'') : Takes d d'' t :=
  ⟨tacit.told.trans h.told, h.followed.trans (congrArg (some ·.standing?) tacit.session.symm)⟩

/-- The same, and the log has nothing else new. -/
structure Enters (d d' : Desk) (t : Option Transition) : Prop where
  recorded : d'.recorded =
    d.recorded ++ ((t.filter (d.logs ·.deed)).map fun t => ⟨d.stamp, t.deed⟩).toList
  followed : t.elim (some d.session.standing?) (follow d.session.standing?) =
    some d'.session.standing?

namespace Enters

variable {d d' d'' : Desk} {t : Option Transition}

theorem takes (h : Enters d d' t) : Takes d d' t := by
  refine ⟨?_, h.followed⟩
  rw [h.recorded, taskDeeds_append]
  cases t.filter (d.logs ·.deed) with
  | none => rfl
  | some t =>
      rw [Option.map_some, Option.toList_some, taskDeeds_transition]
      rfl

theorem of_same (session : d'.session = d.session) (recorded : d'.recorded = d.recorded) :
    Enters d d' none := by
  refine ⟨?_, ?_⟩
  · rw [recorded]
    exact (List.append_nil _).symm
  · rw [session]
    rfl

theorem echoed (h : Enters d d' t) (echoed : d'.Echoed d'') : Enters d d'' t := by
  refine ⟨echoed.recorded.trans h.recorded, ?_⟩
  rw [echoed.alike.session]
  exact h.followed

/-- An accepted command makes its transition and records it at once. -/
theorem of_record {e : Desk} {t : Transition} {deed : Deed} (is : deed = t.deed)
    (same : e.recorded = d.recorded) (stamp : e.stamp = d.stamp) (logs : e.logs deed = d.logs deed)
    (followed : Follows d.session.standing? t e.session.standing?) :
    Enters d (e.record deed) (some t) := by
  subst is
  refine ⟨?_, ?_⟩
  · rw [recorded_record, same, stamp, logs, Option.filter_some]
    split <;> rfl
  · rw [(e.record_alike t.deed).session]
    exact follow_eq_some.mpr followed

end Enters

/-! ## Commands one by one -/

theorem startTask_enters (d : Desk) : Enters d (startTask.on d).2 (accepted? d .new) := by
  unfold accepted? startTask
  rw [on_bind, on_of]
  rcases d.session.start_cases d.counter with ⟨index, -, refused⟩ | ⟨idle, accepted⟩
  · simp only [refused]
    exact .of_same rfl rfl
  · simp only [accepted, Except.mapError]
    rw [on_bind_ok (on_record _ _)]
    refine Enters.echoed ?_ ((Within.emitLine _).leads _)
    refine .of_record rfl rfl rfl rfl ?_
    rw [Session.standing?_of_idle idle]
    exact .start d.counter.value

theorem discardTask_enters (d : Desk) : Enters d (discardTask.on d).2 (accepted? d .discard) := by
  unfold accepted? discardTask
  rw [on_bind, on_of]
  rcases d.session.discard_cases with ⟨index, active, accepted⟩ | ⟨-, refused⟩
  · simp only [accepted, Except.mapError]
    rw [on_bind_ok (on_record _ _)]
    refine Enters.echoed ?_ ((Within.emitLine _).leads _)
    refine .of_record rfl rfl rfl rfl ?_
    rw [Session.standing?_of_active active]
    exact .discard _
  · simp only [refused]
    exact .of_same rfl rfl

theorem completeTask_enters {d : Desk} (coherent : d.session.Coherent) :
    Enters d (completeTask.on d).2 (accepted? d .complete) := by
  unfold accepted?
  rcases completeTask_cases d with ⟨task, completed, echoed⟩ | ⟨refused, same⟩
  · rw [completed]
    have recorded : Enters d (finished d task) (some (.complete task.index task.subtasks)) := by
      obtain ⟨index, indexed, assigned, rfl⟩ := completed?_eq_some completed
      refine .of_record rfl rfl rfl rfl ?_
      rw [Session.standing?_of_active (coherent.activeIndex?.trans indexed), Session.credentials?,
        if_pos assigned]
      exact .complete _ _ rfl
    obtain ⟨tree, faults, written, same⟩ := writeScript_frame (finished d task) task.script.key
    have written : Enters d ((writeScript task.script.key).on (finished d task)).2
        (some (.complete task.index task.subtasks)) := by
      rw [same]
      exact ⟨recorded.recorded, recorded.followed⟩
    exact written.echoed echoed
  · rw [refused, same]
    exact .of_same rfl rfl

theorem enters_given {d : Desk} (coherent : d.session.Coherent) (active : d.session.isActive)
    (c : Credentials) (o : Operator) :
    Enters d
      ({ d with session := d.session.given c, operator := o }.record
        (credentialsDeed (d.session.given c) d.session.assigned))
      ((d.session.given c).taskIndex.map
        (.credentials · c.computer c.username d.session.assigned)) := by
  obtain ⟨index, indexed⟩ := Option.isSome_iff_exists.mp (coherent.indexed.trans active)
  have still : (d.session.given c).taskIndex = some index := indexed
  have deed : credentialsDeed (d.session.given c) d.session.assigned =
      (Transition.credentials index c.computer c.username d.session.assigned).deed := by
    rw [credentialsDeed, Session.taskKey?, still]
    rfl
  rw [still, Option.map_some]
  refine .of_record deed rfl rfl rfl ?_
  rw [Session.standing?_of_active (coherent.activeIndex?.trans indexed),
    Session.standing?_of_active ((coherent.given active c).activeIndex?.trans still),
    ← d.session.isSome_credentials?, ← Option.isSome_map]
  exact .credentials _ c.computer c.username

theorem captureCredentials_enters {d : Desk} (coherent : d.session.Coherent) :
    Enters d (captureCredentials.on d).2 (accepted? d .credentials) := by
  have shown := fun d => (@details_talk false).within_echoed.leads d
  unfold accepted? captureCredentials
  rw [on_bind, on_of]
  rcases d.session.capture_cases d.operator with
    ⟨e, o, failed⟩ | ⟨o, kept⟩ | ⟨c, o, active, -, stored⟩
  · simp only [failed]
    exact .of_same rfl rfl
  · simp only [kept, Except.mapError]
    have quiet : Enters d { d with operator := o } none := .of_same rfl rfl
    exact quiet.echoed (shown _)
  · have recorded := enters_given coherent active c o
    cases assigned : d.session.assigned with
    | false =>
        have captured : d.session.storing = .captured := by
          rw [Session.storing, assigned]
          rfl
        rw [assigned] at recorded
        simp only [stored, captured, Except.mapError]
        exact recorded
    | true =>
        have overwritten : d.session.storing = .overwritten := by
          rw [Session.storing, assigned]
          rfl
        rw [assigned] at recorded
        simp only [stored, overwritten, Except.mapError]
        rw [if_pos (by decide), on_bind_ok (show (look (·.session)).on _ = (.ok _, _) from rfl),
          on_bind_ok (on_record _ _)]
        exact recorded.echoed (shown _)

theorem announceSubtask_tacit (id : String) (source : Path) :
    Within Tacit (announceSubtask id source) := by
  have recorded : Within Tacit (Action.record (subtaskDeed id source)) :=
    ⟨fun d => d.record_tacit id source, fun _ _ => ⟨(), rfl⟩⟩
  exact recorded.bind fun _ => (Within.emitLine _).tacit

theorem announceAll_tacit (source : Path) (ids : List String) :
    Within Tacit (announceAll source ids) := by
  induction ids with
  | nil => exact .pure ()
  | cons id rest ih => exact (announceSubtask_tacit id source).bind fun _ => ih

theorem addSubtask_tacit (id : String) (path : Path) (d : Desk) :
    d.Tacit ((addSubtask id path).on d).2 := by
  refine Frame.trans ?_ (Within.after_of (fun _ => announceSubtask_tacit id path) d)
  cases d.registry.loadFile d.tree id path with
  | error e => exact Frame.refl d
  | ok registry => exact ⟨rfl, rfl, rfl⟩

theorem addDirectory_tacit (directory : Path) (d : Desk) :
    d.Tacit ((addDirectory directory).on d).2 := by
  refine Frame.trans ?_ (Within.after_of (fun ids => ?_) d)
  · exact ⟨rfl, rfl, rfl⟩
  · cases ids with
    | nil => exact (Within.look _).bind fun _ => (Within.emitPainted _ _).tacit
    | cons id rest => exact announceAll_tacit directory (id :: rest)

/-! ## Turns -/

theorem execute_takes {d : Desk} (coherent : d.session.Coherent) (command : Command) :
    Takes d ((execute command).on d).2 (accepted? d command) := by
  refine @execute_cases d (fun command d' => Takes d d' (accepted? d command)) ?_
    (startTask_enters d).takes (captureCredentials_enters coherent).takes
    (fun id path => .of_tacit (addSubtask_tacit id (Path.ofString path) d))
    (fun directory => .of_tacit (addDirectory_tacit (Path.ofString directory) d))
    (completeTask_enters coherent).takes (discardTask_enters d).takes command
  intro command d' talks echoed
  cases talks <;> exact .of_tacit echoed.tacit

theorem next_takes {d : Desk} (coherent : d.session.Coherent) (r : Reading) :
    Takes d (next d r) (transition? d r) := by
  refine Takes.tacit ?_ (next_echoes d r).tacit
  unfold carried transition?
  cases r.command? with
  | none => exact .of_tacit (Frame.refl d)
  | some command => exact execute_takes coherent command

end Shell

end RemoteDesk
