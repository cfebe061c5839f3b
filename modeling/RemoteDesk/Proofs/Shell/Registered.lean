import RemoteDesk.Proofs.Registry
import RemoteDesk.Proofs.Shell.Rounds

/-! # The registry of a desk

Commands that load fragments change the registry by accepted insertions only, a completion empties
it, and all others leave it. So every id that waits at a desk is a function name.
-/

namespace RemoteDesk.Shell

open Desk Desk.Action

theorem addSubtask_filled {d : Desk} (h : d.registry.Filled) (id : String) (path : Path) :
    ((addSubtask id path).on d).2.registry.Filled := by
  rw [((addSubtask_speaks id path).talksAfter.leads d).alike.registry]
  cases loaded : d.registry.loadFile d.tree id path with
  | error e => exact h
  | ok registry => exact h.loadFile loaded

theorem addDirectory_filled {d : Desk} (h : d.registry.Filled) (directory : Path) :
    ((addDirectory directory).on d).2.registry.Filled := by
  rw [((addDirectory_speaks directory).talksAfter.leads d).alike.registry]
  exact h.loadDirectory d.tree directory d.config.fragmentGlob

theorem completeTask_filled {d : Desk} (h : d.registry.Filled) :
    (completeTask.on d).2.registry.Filled := by
  rcases completeTask_cases d with ⟨task, -, echoed⟩ | ⟨-, same⟩
  · rw [(alike_of_completes echoed).registry]
    exact .empty
  · rw [same]
    exact h

theorem execute_filled {d : Desk} (h : d.registry.Filled) (command : Command) :
    ((execute command).on d).2.registry.Filled := by
  have kept {d' d'' : Desk} (told : d'.Told d'') (same : d'.registry = d.registry) :
      d''.registry.Filled := by
    rw [told.alike.registry, same]
    exact h
  exact @execute_cases d (fun _ d' => d'.registry.Filled)
    (fun _ _ _ echoed => kept echoed.told rfl) (kept (startTask_speaks.talksAfter.leads d) rfl)
    (kept (captureCredentials_speaks.talksAfter.leads d) rfl)
    (fun id path => addSubtask_filled h id (Path.ofString path))
    (fun directory => addDirectory_filled h (Path.ofString directory))
    (completeTask_filled h) (kept (discardTask_speaks.talksAfter.leads d) rfl) command

theorem next_filled {d : Desk} (h : d.registry.Filled) (r : Reading) :
    (next d r).registry.Filled := by
  rw [(next_echoes d r).alike.registry]
  unfold carried
  cases r.command? with
  | none => exact h
  | some command => exact execute_filled h command

theorem filled_stand {d : Desk} (h : d.registry.Filled) (readings : List Reading) :
    (stand d readings).registry.Filled := by
  induction readings generalizing d with
  | nil => exact h
  | cons r rest ih => exact ih (next_filled h r)

theorem filled_of_rounds {d : Desk} (h : d.registry.Filled) {readings : List Reading} {x : Round}
    (member : x ∈ rounds d readings) : x.before.registry.Filled := by
  obtain ⟨past, later, split⟩ := List.append_of_mem member
  obtain ⟨heardSoFar, -, before⟩ := rounds_split split
  rw [before]
  exact filled_stand h heardSoFar

end RemoteDesk.Shell
