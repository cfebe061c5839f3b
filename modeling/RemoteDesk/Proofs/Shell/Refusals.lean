import RemoteDesk.Proofs.Registry.Directory
import RemoteDesk.Proofs.Session.Questions
import RemoteDesk.Proofs.Shell.Rounds

/-! # Refused lines

Talk fails only because of the output, and a script that cannot be written fails because of its
files. Every other failure is one of the first action of a command, before anything is said or
recorded. A first action that fails changes nothing, with two exceptions: a capture has asked its
questions by then, and a directory has been loaded up to the file that cannot be.
-/

namespace RemoteDesk

namespace FileTree

theorem error_of_makeParent {t t' : FileTree} {p : Path} {complain : Path → OsError → DeskError}
    {e : DeskError} (failed : t.makeParent p complain = (.error e, t')) :
    ∃ parent cause, e = complain parent cause := by
  unfold makeParent at failed
  split at failed
  · cases failed
  · next parent _ =>
      split at failed
      · cases failed
      · split at failed
        · cases failed
        · next cause _ _ =>
            cases failed
            exact ⟨parent, cause, rfl⟩

theorem kind_of_replace {t t' : FileTree} {p : Path} {content : Bytes} {e : DeskError}
    (failed : t.replace p content = (.error e, t')) : e.kind = .io := by
  unfold replace at failed
  split at failed
  · next parentless =>
      cases failed
      obtain ⟨parent, cause, rfl⟩ := error_of_makeParent parentless
      rfl
  · split at failed
    · cases failed
      rfl
    · unfold replaceThrough at failed
      split at failed
      · cases failed
        rfl
      · split at failed <;> cases failed
        rfl

end FileTree

namespace Shell

open Desk Desk.Action

/-- What a refused command leaves behind: the answers that a capture has taken up and the files of a
    directory before the one that cannot be loaded. -/
structure Refused (d : Desk) (command : Option Command) (e : DeskError) (d' : Desk) : Prop where
  same : d' = { d with registry := d'.registry, operator := d'.operator }
  registry :
    (d'.registry = d.registry ∧
      ∀ directory, command = some (.subtaskDir directory) →
        Registry.Unlisted d.tree (Path.ofString directory) d.config.fragmentGlob) ∨
    ∃ directory, command = some (.subtaskDir directory) ∧
      d.registry.StopsAt d.tree (Path.ofString directory) d.config.fragmentGlob e d'.registry
  operator :
    d'.operator = d.operator ∨
    command = some .credentials ∧ d.session.isActive ∧
      (d.session.capture d.operator).1.mapError SessionError.toDeskError = .error e ∧
      d'.operator = Session.after d.operator (Session.put (d.session.questions d.operator))

theorem Refused.of_still {command : Option Command}
    (other : ∀ directory, command ≠ some (.subtaskDir directory)) (d : Desk) (e : DeskError) :
    Refused d command e d :=
  ⟨rfl, .inl ⟨rfl, fun directory is => (other directory is).elim⟩, .inl rfl⟩

/-! ## Commands one by one -/

variable {d d' : Desk} {e : DeskError}

theorem startTask_refused (failed : startTask.on d = (.error e, d')) (kind : e.kind ≠ .io) :
    Refused d (some .new) e d' := by
  have first := startTask_speaks.first_of_error failed kind
  rcases d.session.start_cases d.counter with ⟨index, -, refused⟩ | ⟨-, accepted⟩
  · simp only [refused] at first
    cases first
    exact .of_still (by simp) d _
  · simp [accepted, Except.mapError] at first

theorem discardTask_refused (failed : discardTask.on d = (.error e, d')) (kind : e.kind ≠ .io) :
    Refused d (some .discard) e d' := by
  have first := discardTask_speaks.first_of_error failed kind
  rcases d.session.discard_cases with ⟨index, -, accepted⟩ | ⟨-, refused⟩
  · simp [accepted, Except.mapError] at first
  · simp only [refused] at first
    cases first
    exact .of_still (by simp) d _

theorem captureCredentials_refused (failed : captureCredentials.on d = (.error e, d'))
    (kind : e.kind ≠ .io) : Refused d (some .credentials) e d' := by
  have first := captureCredentials_speaks.first_of_error failed kind
  have asked := d.session.operator_capture d.operator
  rcases d.session.capture_cases d.operator with
    ⟨cause, o, refused⟩ | ⟨o, kept⟩ | ⟨c, o, -, -, stored⟩
  · simp only [refused, Except.mapError, Prod.mk.injEq, Except.error.injEq] at first asked
    obtain ⟨rfl, rfl⟩ := first
    refine ⟨rfl, .inl ⟨rfl, by simp⟩, ?_⟩
    cases active : d.session.isActive with
    | false =>
        rw [active] at asked
        exact .inl (asked.trans (Session.after_nil d.operator))
    | true =>
        rw [active, if_pos rfl] at asked
        exact .inr ⟨rfl, rfl, by rw [refused]; rfl, asked⟩
  · simp [kept, Except.mapError] at first
  · simp [stored, Except.mapError] at first

theorem addSubtask_refused {id : String} {path : Path}
    (failed : (addSubtask id path).on d = (.error e, d')) (kind : e.kind ≠ .io) :
    d' = d := by
  have first := (addSubtask_speaks id path).first_of_error failed kind
  cases loaded : d.registry.loadFile d.tree id path with
  | error cause =>
      simp only [loaded] at first
      exact (Prod.mk.inj first).2.symm
  | ok registry => simp [loaded] at first

theorem addDirectory_refused {directory : String}
    (failed : (addDirectory (Path.ofString directory)).on d = (.error e, d'))
    (kind : e.kind ≠ .io) : Refused d (some (.subtaskDir directory)) e d' := by
  have first := (addDirectory_speaks (Path.ofString directory)).first_of_error failed kind
  rcases d.registry.loadDirectory_cases d.tree (Path.ofString directory) d.config.fragmentGlob with
    ⟨fragments, loaded⟩ | ⟨cause, unlisted, refused⟩ | ⟨cause, fragments, stops, refused⟩
  · simp [loaded] at first
  · simp only [refused] at first
    cases first
    refine ⟨rfl, .inl ⟨rfl, ?_⟩, .inl rfl⟩
    rintro _ ⟨⟩
    exact unlisted
  · simp only [refused] at first
    cases first
    exact ⟨rfl, .inr ⟨directory, rfl, stops⟩, .inl rfl⟩

theorem kind_of_writeScript {key text : String} (kept : d.store.get? key = some text)
    (failed : (writeScript key).on d = (.error e, d')) : e.kind = .io := by
  rcases writeScript_cases kept with
    ⟨-, still⟩ | ⟨directory, -, ⟨tree, -, written⟩ | ⟨cause, tree, faults, refused, why⟩⟩
  · simp [still] at failed
  · simp [written] at failed
  · rw [refused] at failed
    cases failed
    rcases why with ⟨fault, -, rfl, -⟩ | replaced
    · rfl
    · exact FileTree.kind_of_replace replaced

/-- A completion is refused for want of credentials, or its failure is one of files or output. -/
theorem completeTask_refused (failed : completeTask.on d = (.error e, d')) (kind : e.kind ≠ .io) :
    Refused d (some .complete) e d' := by
  rcases on_completeTask d with ⟨task, -, same⟩ | ⟨-, same⟩ <;> rw [same] at failed
  · rcases written : (writeScript task.script.key).on (finished d task) with ⟨cause | path, d₁⟩
    · rw [on_bind_error written] at failed
      cases failed
      exact absurd (kind_of_writeScript (finished_get? d task) written) kind
    · rw [on_bind_ok written] at failed
      exact absurd ((@closing_talk true task path).kind_of_error
        (congrArg Prod.fst failed)) kind
  · cases failed
    exact .of_still (by simp) d _

/-! ## Lines -/

theorem on_then_of_error {a : Action Unit} (failed : a.on d = (.error e, d')) (flow : Flow) :
    (do a; return flow : Action Flow).on d = (.error e, d') := by
  rw [on_then, failed]
  rfl

theorem error_of_then {a : Action Unit} {flow : Flow}
    (failed : (do a; return flow : Action Flow).on d = (.error e, d')) : a.on d = (.error e, d') := by
  rw [on_then] at failed
  rcases answered : a.on d with ⟨cause | ⟨⟩, d₁⟩
  · rw [answered] at failed
    cases failed
    rfl
  · rw [answered] at failed
    cases failed

theorem execute_refused {command : Command} (failed : (execute command).on d = (.error e, d'))
    (kind : e.kind ≠ .io) : Refused d (some command) e d' := by
  have mute {a : Action Unit} (talk : Talk false a)
      (failed : (do a; return Flow.goOn : Action Flow).on d = (.error e, d')) :
      Refused d (some command) e d' :=
    absurd (talk.kind_of_error (congrArg Prod.fst (error_of_then failed))) kind
  cases command with
  | exit => cases failed
  | new => exact startTask_refused (error_of_then failed) kind
  | credentials => exact captureCredentials_refused (error_of_then failed) kind
  | showCredentials => exact mute showCredentials_talk failed
  | subtask id path =>
      obtain rfl := addSubtask_refused (error_of_then failed) kind
      exact .of_still (by simp) d' e
  | subtaskDir directory => exact addDirectory_refused (error_of_then failed) kind
  | assigned => exact mute listSubtasks_talk failed
  | complete => exact completeTask_refused (error_of_then failed) kind
  | discard => exact discardTask_refused (error_of_then failed) kind
  | tasks => exact mute listTasks_talk failed
  | help => exact mute (.emit _) failed
  | unknown word => exact mute (.emitPainted _ _) failed

/-- A line that fails otherwise than by files or output changes nothing: nothing is said, recorded
    or written, and the session, the counter and the store are as they were. Only a directory that
    fails at one of its files has given the registry those that sort strictly before it, and only a
    capture has used up answers. -/
theorem refused_line_changes_nothing {d d' : Desk} {line : String} {e : DeskError}
    (failed : (handleLine line).on d = (.error e, d')) (kind : e.kind ≠ .io) :
    Refused d (Reading.line line).command? e d' := by
  cases brings : (Reading.line line).command? with
  | some command =>
      rw [handleLine_of_command brings] at failed
      exact execute_refused failed kind
  | none =>
      have still := handleLine_still brings d
      rw [failed] at still
      obtain rfl : d' = d := still
      exact .of_still (by simp) d' e

/-- The first of three fragments stays when the second cannot be loaded. -/
theorem refused_line_changes_nothing_but_first_fragment :
    let d := opened .default false Registry.threeParts [] .unreachable .unlimited ⟨⟨0, 0, 0⟩, "me"⟩
    let d' := { d with registry := ⟨[("a", "A")]⟩ }
    (handleLine "subtask-dir parts").on d = (.error (.invalidSubtaskId "b-c"), d') ∧
      Refused d (some (.subtaskDir "parts")) (.invalidSubtaskId "b-c") d' := by
  intro d d'
  have brings : (Reading.line "subtask-dir parts").command? = some (.subtaskDir "parts") := by
    decide +kernel
  have stops : d.registry.loadDirectory d.tree (Path.ofString "parts") d.config.fragmentGlob =
      (.error (.invalidSubtaskId "b-c"), ⟨[("a", "A")]⟩) :=
    Registry.loadDirectory_threeParts
  have failed : (handleLine "subtask-dir parts").on d = (.error (.invalidSubtaskId "b-c"), d') := by
    rw [handleLine_of_command brings]
    exact on_then_of_error (on_addDirectory_of_error stops) .goOn
  have refused := refused_line_changes_nothing failed (by decide)
  rw [brings] at refused
  exact ⟨failed, refused⟩

end Shell

end RemoteDesk
