import RemoteDesk.Proofs.Audit.Framing
import RemoteDesk.Proofs.Compose
import RemoteDesk.Proofs.FileTree.Outline
import RemoteDesk.Proofs.FileTree.Whole

/-! # What is recorded and what is delivered

A task is recorded once it is compiled, and its script is delivered after that. So the log gains one
event for every task that is compiled, whatever comes of the delivery, and nothing for a request that
fails before. The delivery into a file changes that file and its sibling at most, so the event stays
unless the log is one of these two.
-/

namespace RemoteDesk.ComposeRequest

variable {config : Config} {log : String} {t : FileTree}

/-- An event that the log takes is all that is added to it. -/
theorem note_extends (named : config.eventsFile = some log) {stamp : Audit.Stamp}
    {task : CompletedTask}
    (accepts : (Audit.append t (Path.ofString log) ⟨stamp, deed task⟩).1 = .ok ()) :
    t.Extends (Path.ofString log) (Audit.Event.bytes ⟨stamp, deed task⟩)
      (note config t stamp task) := by
  simp only [note, named]
  rcases Audit.append_cases t (Path.ofString log) ⟨stamp, deed task⟩ with
    ⟨t', taken, extends_⟩ | ⟨cause, t', refused, -⟩
  · rw [taken]
    exact extends_
  · rw [refused] at accepts
    cases accepts

/-- The log gains one event for a task that is compiled, and all files stay as they are if none is.
    The event comes before the delivery. If the script cannot be written to its file, the answer is an
    error, no file but the sibling of that file has changed since, and the event stays. If it can, the
    file holds the script, and again no other file has changed since. -/
theorem compiled_task_recorded_before_delivery (named : config.eventsFile = some log)
    (accepts : ∀ e, (Audit.append t (Path.ofString log) e).1 = .ok ()) (r : ComposeRequest)
    (stamp : Audit.Stamp) (output : Option String) :
    let delivered := r.deliver config t stamp output
    (∀ e, r.compose config t = .error e → delivered = (.error e, t)) ∧
    ∀ task, r.compose config t = .ok task → ∃ (recorded : FileTree) (place : Place),
      let event : Audit.Event := ⟨stamp, deed task⟩
      let holds : Entry := .file (t.contentAt place ++ event.bytes)
      t.Extends (Path.ofString log) event.bytes recorded ∧
      recorded.find (Path.ofString log) = .ok (place, holds) ∧
      (∀ content, t.read (Path.ofString log) = .ok content → t.contentAt place = content) ∧
      match output with
      | none => delivered = (.ok task.script.text, recorded)
      | some name =>
        let path := Path.ofString name
        (delivered.1.isOk → delivered.2.read path = .ok (Utf8.encode task.script.text) ∧
          ∀ q, delivered.2.Apart path q → recorded.Spares path q delivered.2) ∧
        (delivered.1.isOk = false →
          ∀ q, ¬ delivered.2.Aside path q → recorded.Spares path q delivered.2) ∧
        (delivered.2.Apart path place →
          delivered.2.find (Path.ofString log) = .ok (place, holds)) := by
  intro delivered
  constructor
  · intro e failed
    simp only [delivered, deliver, run, failed]
  · intro task composed
    have extended := note_extends named (accepts ⟨stamp, deed task⟩)
    have nonempty : Audit.Event.bytes ⟨stamp, deed task⟩ ≠ [] := by
      rw [Audit.Event.bytes_eq]
      simp
    obtain ⟨place, found, stood⟩ := extended.find nonempty
    refine ⟨note config t stamp task, place, extended, found, stood, ?_⟩
    cases output with
    | none => simp only [delivered, deliver, run, composed]
    | some name =>
        rcases written : (note config t stamp task).replace (Path.ofString name)
          (Utf8.encode task.script.text) with ⟨e | ⟨⟩, after⟩
        · have spares := FileTree.apart_of_refused written
          have keeps := (FileTree.replace_error written).of_spares spares
          have refused : delivered = (.error e, after) := by
            simp only [delivered, deliver, run, composed, written]
            rfl
          simp only [refused]
          exact ⟨nofun, fun _ => spares, fun apart => keeps.find apart.2 found⟩
        · obtain ⟨holds, spares⟩ := FileTree.apart_of_replaced written
          obtain ⟨directory, last, -, -, kept⟩ := FileTree.replace_ok written
          have keeps := kept.of_spares spares
          have done : delivered.1.isOk ∧ delivered.2 = after := by
            simp only [delivered, deliver, run, composed, written]
            exact ⟨rfl, trivial⟩
          simp only [done]
          exact ⟨fun _ => ⟨holds, spares⟩, nofun, fun apart => keeps.find apart found⟩

/-- A script goes into a directory that has to be made, and the event behind a line that is there. -/
theorem compiled_task_recorded_before_delivery_to_new_directory :
    ∃ (t : FileTree) (task : CompletedTask) (recorded : FileTree) (place : Place),
      let r : ComposeRequest := { ComposeRequest.empty with computer := some "host" }
      let config := { Config.default with eventsFile := some "log" }
      let stamp : Audit.Stamp := ⟨⟨0, 0, 0⟩, "me"⟩
      let delivered := r.deliver config t stamp (some "out/task.au3")
      t = ⟨[([Utf8.encode "log"], .file (Utf8.encode "earlier\n"))], []⟩ ∧
      r.compose config t = .ok task ∧
      recorded.find (Path.ofString "log") =
        .ok (place, .file (Utf8.encode "earlier\n" ++ Audit.Event.bytes ⟨stamp, deed task⟩)) ∧
      delivered.2.read (Path.ofString "out/task.au3") = .ok (Utf8.encode task.script.text) := by
  obtain ⟨t, files⟩ : ∃ t : FileTree,
      t = ⟨[([Utf8.encode "log"], .file (Utf8.encode "earlier\n"))], []⟩ := ⟨_, rfl⟩
  obtain ⟨r, wishes⟩ : ∃ r, r = { ComposeRequest.empty with computer := some "host" } := ⟨_, rfl⟩
  obtain ⟨config, settings⟩ : ∃ c, c = { Config.default with eventsFile := some "log" } :=
    ⟨_, rfl⟩
  let first : Audit.Event := ⟨⟨⟨0, 0, 0⟩, "me"⟩, ⟨.start, none, .null⟩⟩
  have taken : (Audit.append t (Path.ofString "log") first).1 = .ok () := by
    rw [files]
    exact ok_of_toOption (by decide +kernel)
  have accepts := Audit.append_all taken
  have read : t.read (Path.ofString "log") = .ok (Utf8.encode "earlier\n") := by
    rw [files]
    exact ok_of_toOption (by decide +kernel)
  have compiled : (r.compose config t).toOption.isSome := by
    rw [files, wishes, settings]
    decide +kernel
  have written : (r.deliver config t ⟨⟨0, 0, 0⟩, "me"⟩ (some "out/task.au3")).1.isOk := by
    rw [files, wishes, settings]
    decide +kernel
  obtain ⟨task, answer⟩ := Option.isSome_iff_exists.mp compiled
  have composed := ok_of_toOption answer
  have logged : config.eventsFile = some "log" := by rw [settings]
  obtain ⟨-, records⟩ := compiled_task_recorded_before_delivery logged accepts r
    ⟨⟨0, 0, 0⟩, "me"⟩ (some "out/task.au3")
  obtain ⟨recorded, place, -, found, stood, done, -⟩ := records task composed
  rw [stood _ read] at found
  subst wishes settings
  exact ⟨t, task, recorded, place, files, composed, found, (done written).1⟩

/-- A script cannot be written where a directory stands. The request fails, and the log, which was not
    there, has the event of the task. -/
theorem event_stays_without_script :
    let r : ComposeRequest := { ComposeRequest.empty with computer := some "10.0.0.5" }
    let config := { Config.default with eventsFile := some "events.ndjson" }
    let t : FileTree := ⟨[([Utf8.encode "out"], .directory)], []⟩
    let stamp : Audit.Stamp := ⟨⟨0, 0, 0⟩, "me"⟩
    let log := Path.ofString "events.ndjson"
    let delivered := r.deliver config t stamp (some "out")
    (∀ e, (Audit.append t log e).1 = .ok ()) ∧ delivered.1.isOk = false ∧
      t.pathExists log = false ∧ (delivered.2.read log).isOk ∧
      (delivered.2.read log).toOption =
        (r.compose config t).toOption.map fun task => Audit.Event.bytes ⟨stamp, deed task⟩ := by
  intro r config t stamp log delivered
  refine ⟨?_, by decide +kernel, by decide +kernel, by decide +kernel, by decide +kernel⟩
  have taken : (Audit.append t log ⟨stamp, ⟨.start, none, .null⟩⟩).1 = .ok () :=
    ok_of_toOption (by decide +kernel)
  exact Audit.append_all taken

end RemoteDesk.ComposeRequest
