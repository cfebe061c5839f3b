import RemoteDesk.Proofs.FileTree.Replace
import RemoteDesk.Proofs.Script.Key
import RemoteDesk.Proofs.Shell.Ledger
import RemoteDesk.Proofs.Text.Utf8

/-! # Written scripts stay written

Where no log is kept, a completion is the only command that changes files, and it replaces one file
of the output directory, by way of a hidden one. The files of two tasks with different keys have
different names there, so no completion touches the script of another. That holds as long as key,
dot and extension make one name: an extension with a separator in it makes several, and the last of
them can be the same for every key.
-/

namespace RemoteDesk

/-! ## The names of scripts -/

namespace Script

theorem encode_fileName (index : UInt32) (extension : String) :
    ∃ more, Utf8.encode (taskKey index ++ "." ++ extension) = 0x52 :: more := by
  have stem : ∃ more, Utf8.encode keyStem = 0x52 :: more := ⟨_, rfl⟩
  obtain ⟨more, same⟩ := stem
  simp [taskKey, Utf8.encode_append, same]

theorem slash_not_mem_fileName {index : UInt32} {extension : String}
    (single : '/' ∉ extension.toList) :
    Path.slash ∉ Utf8.encode (taskKey index ++ "." ++ extension) := by
  intro member
  have among := Utf8.mem_of_mem_encode (c := '/') (by decide) (by decide) member
  simp only [String.toList_append, List.mem_append] at among
  rcases among with (key | point) | ext
  · exact absurd (isIdPart_of_mem_taskKey key) (by decide)
  · exact absurd point (by decide)
  · exact single ext

end Script

namespace Shell

open Desk Desk.Action FileTree

/-! ## One round -/

/-- The files are the same, and so is what the disk will do to the next changes of them. -/
def SameFiles (d d' : Desk) : Prop :=
  d'.tree = d.tree ∧ d'.faults = d.faults

theorem SameFiles.of_echoed {d d' d'' : Desk} (h : d'.Echoed d'') (same : SameFiles d d') :
    SameFiles d d'' := by
  obtain ⟨sink, -, rfl⟩ := h
  exact same

/-- Where no log is kept, a command that makes no script leaves the files. -/
theorem sameFiles_execute {d : Desk} (unlogged : d.config.eventsFile = none) {command : Command}
    (scriptless : command = .complete → completed? d = none) :
    SameFiles d ((execute command).on d).2 := by
  have still : SameFiles d d := ⟨rfl, rfl⟩
  revert scriptless
  refine @execute_cases d (fun command d' =>
    (command = .complete → completed? d = none) → SameFiles d d') ?_ ?_ ?_ ?_ ?_ ?_ ?_ command
  · intro command d' _ echoed _
    exact .of_echoed echoed still
  · intro _
    exact .of_echoed (startTask_speaks.echoed unlogged) ⟨rfl, rfl⟩
  · intro _
    exact .of_echoed (captureCredentials_speaks.echoed unlogged) ⟨rfl, rfl⟩
  · intro id path _
    have talk := (addSubtask_speaks id (Path.ofString path)).echoed (d := d)
    cases loaded : d.registry.loadFile d.tree id (Path.ofString path) with
    | error e =>
        simp only [loaded] at talk
        exact .of_echoed (talk unlogged) still
    | ok registry =>
        simp only [loaded] at talk
        exact .of_echoed (talk unlogged) ⟨rfl, rfl⟩
  · intro directory _
    exact .of_echoed ((addDirectory_speaks (Path.ofString directory)).echoed unlogged) ⟨rfl, rfl⟩
  · intro refused
    rcases completeTask_cases d with ⟨task, completed, -⟩ | ⟨-, same⟩
    · rw [refused rfl] at completed
      cases completed
    · rw [same]
      exact still
  · intro _
    exact .of_echoed (discardTask_speaks.echoed unlogged) ⟨rfl, rfl⟩

/-- Where no log is kept, a round that makes no script leaves the files. -/
theorem sameFiles_next {d : Desk} (unlogged : d.config.eventsFile = none) {r : Reading}
    (scriptless : task? d r = none) : SameFiles d (next d r) := by
  refine .of_echoed (next_echoes d r) ?_
  unfold carried
  cases brings : r.command? with
  | none => exact ⟨rfl, rfl⟩
  | some command =>
      refine sameFiles_execute unlogged fun completes => ?_
      subst completes
      simpa [task?, brings] using scriptless

theorem finished_of_unlogged {d : Desk} (unlogged : d.config.eventsFile = none)
    (task : CompletedTask) : finished d task = scripted d task := by
  simp [finished, Desk.record, scripted, unlogged]

/-- Where no log is kept, a completion replaces the file of its script. If that fails, no file is
    answered. -/
theorem files_of_task {d : Desk} {directory : String} (unlogged : d.config.eventsFile = none)
    (set : d.config.outputDirectory = some directory) {r : Reading} {task : CompletedTask}
    (made : task? d r = some task) :
    let path := Store.scriptPath (Path.ofString directory) task.script.key d.config.scriptExtension
    (file? (finished d task) task.script.key = some path ∧
      d.tree.replace path (Utf8.encode task.script.text) = (.ok (), (next d r).tree)) ∨
    (file? (finished d task) task.script.key = none ∧
      ((∃ e, d.tree.replace path (Utf8.encode task.script.text) = (.error e, (next d r).tree)) ∨
        ∃ fault later, d.faults = some fault :: later ∧ (next d r).tree = fault.left)) := by
  intro path
  have effect := (turn_leads d r).effect
  rw [made] at effect
  cases effect with
  | completes task completed echoed =>
      obtain ⟨sink, -, same⟩ : Desk.Echoed _ (next d r) := echoed
      have outcome := writeScript_cases (finished_get? d task)
      unfold file?
      rw [finished_of_unlogged unlogged] at outcome same ⊢
      rcases outcome with ⟨unset, -⟩ | ⟨other, set', ⟨tree, replaced, written⟩ |
        ⟨e, tree, faults, failed, why⟩⟩
      · simp [scripted, set] at unset
      · obtain rfl : directory = other := Option.some.inj (set.symm.trans set')
        rw [written] at same ⊢
        exact .inl ⟨rfl, by rw [same]; exact replaced⟩
      · obtain rfl : directory = other := Option.some.inj (set.symm.trans set')
        rw [failed] at same ⊢
        refine .inr ⟨rfl, ?_⟩
        rcases why with ⟨fault, broken, -, left⟩ | replaced
        · obtain ⟨later, faults⟩ := List.head?_eq_some_iff.mp broken
          exact .inr ⟨fault, later, faults, by rw [same]; exact left⟩
        · exact .inl ⟨e, by rw [same]; exact replaced⟩

/-- What the disk breaks off of a completion leaves every file that is not hidden. -/
def Round.Sparing (x : Round) : Prop :=
  x.task?.isSome → ∀ fault later, x.before.faults = some fault :: later →
    x.before.tree.Keeps (¬ Hidden ·) fault.left

/-! ## All rounds -/

section Shelf

variable {config : Config} {directory : String}

/-- The desk has come to its place with every script that was written so far. -/
structure Shelved (config : Config) (directory : String) (past : List Round) (d : Desk) :
    Prop where
  setting : d.config = config
  keys : ∀ v ∈ deliveries past, ∃ index, v.script.key = Script.taskKey index
  paths : ∀ v ∈ deliveries past, ∀ path, v.path = some path →
    path = Store.scriptPath (Path.ofString directory) v.script.key config.scriptExtension
  found : '/' ∉ config.scriptExtension.toList →
    ((deliveries past).map (·.script.key)).Nodup → (∀ x ∈ past, x.Sparing) →
    ∀ v ∈ deliveries past, ∀ path, v.path = some path →
      ∃ place, d.tree.find path = .ok (place, .file (Utf8.encode v.script.text))

theorem ownName?_fileName (index : UInt32) (extension : String) :
    ownName? (some (Utf8.encode (Script.taskKey index ++ "." ++ extension))) =
      some (Utf8.encode (Script.taskKey index ++ "." ++ extension)) := by
  obtain ⟨more, same⟩ := Script.encode_fileName index extension
  simp [ownName?, same, Path.dot]

/-- A script that was found lies in the output directory under its own name. -/
theorem place_of_script {t : FileTree} {base : Path} {index : UInt32} {extension : String}
    {place : Place} {content : Bytes} (single : '/' ∉ extension.toList)
    (found : t.find (Store.scriptPath base (Script.taskKey index) extension) =
      .ok (place, .file content)) :
    ∃ holder, t.Locates base holder ∧
      place = holder ++ [Utf8.encode (Script.taskKey index ++ "." ++ extension)] := by
  refine locates_of_find (Script.slash_not_mem_fileName single) (ownName?_fileName index extension)
    ?_ found
  obtain ⟨more, same⟩ := Script.encode_fileName index extension
  simp [same]

theorem not_hidden_fileName (holder : Place) (index : UInt32) (extension : String) :
    ¬ Hidden (holder ++ [Utf8.encode (Script.taskKey index ++ "." ++ extension)]) := by
  obtain ⟨more, same⟩ := Script.encode_fileName index extension
  simp [hidden_append_iff, same, Path.dot]

/-- Writing a script leaves the scripts of other keys where they are. -/
theorem find_of_replace {t t' : FileTree} {base : Path} {index other : UInt32}
    {extension : String} {content text : Bytes} {place : Place}
    (single : '/' ∉ extension.toList) (different : other ≠ index)
    (written : t.replace (Store.scriptPath base (Script.taskKey index) extension) content =
      (.ok (), t'))
    (found : t.find (Store.scriptPath base (Script.taskKey other) extension) =
      .ok (place, .file text)) :
    t'.find (Store.scriptPath base (Script.taskKey other) extension) = .ok (place, .file text) := by
  obtain ⟨reached, name, leads, -, keeps⟩ := replace_ok written
  obtain ⟨holder, -, rfl⟩ := place_of_script single found
  refine keeps.find ⟨not_hidden_fileName holder other extension, ?_⟩ found
  intro same
  have last := leads.last
  have named : Utf8.encode (Script.taskKey index ++ "." ++ extension) ≠ [] := by
    obtain ⟨more, starts⟩ := Script.encode_fileName index extension
    simp [starts]
  rw [Store.scriptPath, Path.ofString,
    Path.components_join (Script.slash_not_mem_fileName single) named, List.getLast?_concat,
    Option.some.injEq] at last
  obtain ⟨-, names⟩ := List.append_inj' same rfl
  rw [← last, List.singleton_inj] at names
  have texts := Utf8.encode_inj names
  simp only [String.append_assoc, String.append_left_inj] at texts
  exact different (Script.taskKey_inj.mp texts)

/-- A completion leaves the scripts of other keys where they are. -/
theorem find_next {d : Desk} {r : Reading} {task : CompletedTask} {index other : UInt32}
    {text : Bytes} {place : Place} (unlogged : d.config.eventsFile = none)
    (set : d.config.outputDirectory = some directory)
    (single : '/' ∉ d.config.scriptExtension.toList) (made : task? d r = some task)
    (key : task.script.key = Script.taskKey index) (different : other ≠ index)
    (sparing : Round.Sparing ⟨d, r⟩) :
    let path := Store.scriptPath (Path.ofString directory) (Script.taskKey other)
      d.config.scriptExtension
    d.tree.find path = .ok (place, .file text) →
    (next d r).tree.find path = .ok (place, .file text) := by
  intro path found
  rcases files_of_task unlogged set made with ⟨-, replaced⟩ | ⟨-, refused⟩
  · rw [key] at replaced
    exact find_of_replace single different replaced found
  · have plain : ¬ Hidden place := by
      obtain ⟨holder, -, rfl⟩ := place_of_script single found
      exact not_hidden_fileName holder other _
    rcases refused with ⟨e, failed⟩ | ⟨fault, later, faults, left⟩
    · exact (replace_error failed).find plain found
    · have brings : (Round.task? ⟨d, r⟩).isSome := by simp [Round.task?, made]
      have spared := sparing brings fault later faults
      exact left ▸ spared.find plain found

/-- The file that a completion answers is that of its script. -/
theorem find_written {d : Desk} {r : Reading} {task : CompletedTask} {path : Path}
    (unlogged : d.config.eventsFile = none) (set : d.config.outputDirectory = some directory)
    (made : task? d r = some task)
    (file : file? (finished d task) task.script.key = some path) :
    path = Store.scriptPath (Path.ofString directory) task.script.key d.config.scriptExtension ∧
      ∃ place, (next d r).tree.find path = .ok (place, .file (Utf8.encode task.script.text)) := by
  rcases files_of_task unlogged set made with ⟨named, replaced⟩ | ⟨unwritten, -⟩
  · obtain rfl := Option.some.inj (file.symm.trans named)
    obtain ⟨holder, name, leads, stands, -⟩ := replace_ok replaced
    exact ⟨rfl, _, leads.find stands⟩
  · rw [unwritten] at file
    cases file

theorem Shelved.step {past : List Round} {d : Desk} (h : Shelved config directory past d)
    (set : config.outputDirectory = some directory) (unlogged : config.eventsFile = none)
    (r : Reading) : Shelved config directory (past ++ [⟨d, r⟩]) (next d r) := by
  have setting : (next d r).config = config := (setting_next d r).config.trans h.setting
  have unlogged' : d.config.eventsFile = none := h.setting ▸ unlogged
  have set' : d.config.outputDirectory = some directory := h.setting ▸ set
  cases made : task? d r with
  | none =>
      obtain ⟨same, -⟩ := sameFiles_next unlogged' made
      refine ⟨setting, ?_, ?_, ?_⟩ <;> rw [deliveries_snoc_none made]
      · exact h.keys
      · exact h.paths
      · intro single distinct sparing
        rw [same]
        exact h.found single distinct fun x member => sparing x (List.mem_append_left _ member)
  | some task =>
      obtain ⟨-, completed⟩ := task?_eq_some.mp made
      obtain ⟨index, -, -, same⟩ := completed?_eq_some completed
      have key : task.script.key = Script.taskKey index := by
        rw [same]
        rfl
      refine ⟨setting, ?_, ?_, ?_⟩ <;> rw [deliveries_snoc_some made]
      · intro v member
        rcases List.mem_append.mp member with earlier | latest
        · exact h.keys v earlier
        · obtain rfl := List.mem_singleton.mp latest
          exact ⟨index, key⟩
      · intro v member path has
        rcases List.mem_append.mp member with earlier | latest
        · exact h.paths v earlier path has
        · obtain rfl := List.mem_singleton.mp latest
          rw [← h.setting]
          exact (find_written unlogged' set' made has).1
      · intro single distinct sparing v member path has
        rw [List.map_append, List.map_singleton, List.nodup_append] at distinct
        obtain ⟨before, -, apart⟩ := distinct
        rcases List.mem_append.mp member with earlier | latest
        · obtain ⟨other, known⟩ := h.keys v earlier
          obtain ⟨place, found⟩ := h.found single before
            (fun x among => sparing x (List.mem_append_left _ among)) v earlier path has
          obtain rfl := h.paths v earlier path has
          have different : other ≠ index := by
            rintro rfl
            exact apart _ (List.mem_map_of_mem earlier) _ (List.mem_singleton.mpr rfl)
              (known.trans key.symm)
          rw [known, ← h.setting] at found ⊢
          rw [← h.setting] at single
          exact ⟨place, find_next unlogged' set' single made key different
            (sparing ⟨d, r⟩ (by simp)) found⟩
        · obtain rfl := List.mem_singleton.mp latest
          exact (find_written unlogged' set' made has).2

theorem shelved_of_rounds {d : Desk} (unlogged : d.config.eventsFile = none)
    (set : d.config.outputDirectory = some directory) (readings : List Reading) :
    Shelved d.config directory (rounds d readings) (stand d readings) := by
  have start : Shelved d.config directory [] d := by
    refine ⟨rfl, ?_, ?_, ?_⟩ <;> simp [deliveries]
  have keeps (past : List Round) (e : Desk) (r : Reading)
      (h : Shelved d.config directory past e) :
      Shelved d.config directory (past ++ [⟨e, r⟩]) (next e r) :=
    h.step set unlogged r
  exact rounds_invariant start keeps readings

end Shelf

/-! ## Reports -/

theorem taken_emitLine {d : Desk} (accepts : d.sink.Accepts) (text : String) :
    ∃ sink, sink.refusal = d.sink.refusal ∧ sink.taken = d.sink.taken ++ (text ++ "\n") ∧
      (emitLine text).on d = (.ok (), { d with sink }) := by
  refine ⟨⟨d.sink.refusal, d.sink.tried + 2, d.sink.taken ++ text ++ "\n"⟩, rfl,
    String.append_assoc, ?_⟩
  have onward : ({ d with sink := ⟨d.sink.refusal, d.sink.tried + 1, d.sink.taken ++ text⟩ } :
      Desk).sink.Accepts := accepts
  rw [emitLine, on_bind_ok (on_emit accepts text), on_emit onward]

theorem taken_closing {d : Desk} (accepts : d.sink.Accepts) (task : CompletedTask) (path : Path) :
    ∃ d' more, (closing task (some path)).on d = (.ok (), d') ∧
      d'.sink.taken = d.sink.taken ++ ("[+] Wrote " ++ path.display ++ "\n") ++ more := by
  obtain ⟨sink, refusal, named, first⟩ := taken_emitLine accepts ("[+] Wrote " ++ path.display)
  obtain ⟨sink', -, taken, second⟩ := taken_emitLine (d := { d with sink })
    (accepts_of_refusal refusal accepts)
    (d.palette.paint .green ("[+] Completed : '" ++ task.script.key ++ "'"))
  let done : String := d.palette.paint .green ("[+] Completed : '" ++ task.script.key ++ "'")
  refine ⟨{ d with sink := sink' }, done ++ "\n", (on_bind_ok first _).trans second, ?_⟩
  rw [taken, named]

/-- The output of a completion that writes its script begins by naming the file. -/
theorem reports_of_file {d : Desk} (unlogged : d.config.eventsFile = none)
    (accepts : d.sink.Accepts) {r : Reading} {task : CompletedTask} {path : Path}
    (made : task? d r = some task)
    (file : file? (finished d task) task.script.key = some path) :
    ∃ more, (next d r).sink.taken =
      d.sink.taken ++ ("[+] Wrote " ++ path.display ++ "\n") ++ more := by
  obtain ⟨brings, completed⟩ := task?_eq_some.mp made
  have closes : ∃ d' more, completeTask.on d = (.ok (), d') ∧
      d'.sink.taken = d.sink.taken ++ ("[+] Wrote " ++ path.display ++ "\n") ++ more := by
    rcases on_completeTask d with ⟨task', completed', same⟩ | ⟨missing, -⟩
    · obtain rfl : task = task' := Option.some.inj (completed.symm.trans completed')
      have framed := writeScript_frame (finished d task) task.script.key
      unfold file? at file
      rcases written : (writeScript task.script.key).on (finished d task) with ⟨e | answer, w⟩
      · simp [written] at file
      · simp only [written] at file framed
        subst file
        rw [same, on_bind_ok written]
        have sink : w.sink = d.sink := by
          obtain ⟨tree, faults, marked, rfl⟩ := framed
          rw [finished_of_unlogged unlogged]
          rfl
        rw [← sink] at accepts ⊢
        exact taken_closing accepts task path
    · simp [missing] at completed
  cases r with
  | endOfInput => simp [Reading.command?] at brings
  | failed cause => simp [Reading.command?] at brings
  | line text =>
      obtain ⟨d', more, done, taken⟩ := closes
      have handled : (handleLine text).on d = (.ok .goOn, d') := by
        rw [handleLine_of_command brings]
        exact (on_then completeTask .goOn d).trans (by rw [done]; rfl)
      rw [next, on_turn_of_ok handled]
      exact ⟨more, taken⟩

/-! ## The run -/

/-- Every script that was delivered to a file is the content of a file that lies in the directory
    under its own name, and scripts of different keys have different files. -/
structure StayWritten (t : FileTree) (directory : Path) (extension : String)
    (delivered : List Delivery) : Prop where
  lies : ∀ v ∈ delivered, ∀ path, v.path = some path →
    '/' ∉ (v.script.key ++ "." ++ extension).toList ∧
    ∃ holder, t.Locates directory holder ∧
      t.find path = .ok (holder ++ [Utf8.encode (v.script.key ++ "." ++ extension)],
        .file (Utf8.encode v.script.text))
  apart : ∀ v ∈ delivered, ∀ w ∈ delivered, v.script.key ≠ w.script.key →
    ∀ path path', v.path = some path → w.path = some path' →
      ∀ place entry place' entry', t.find path = .ok (place, entry) →
        t.find path' = .ok (place', entry') → place ≠ place'

theorem Shelved.stayWritten {config : Config} {directory : String} {past : List Round} {d : Desk}
    (h : Shelved config directory past d) (single : '/' ∉ config.scriptExtension.toList)
    (distinct : ((deliveries past).map (·.script.key)).Nodup) (sparing : ∀ x ∈ past, x.Sparing) :
    StayWritten d.tree (Path.ofString directory) config.scriptExtension (deliveries past) := by
  have lies : ∀ v ∈ deliveries past, ∀ path, v.path = some path →
      ∃ holder, d.tree.Locates (Path.ofString directory) holder ∧
        d.tree.find path =
          .ok (holder ++ [Utf8.encode (v.script.key ++ "." ++ config.scriptExtension)],
            .file (Utf8.encode v.script.text)) := by
    intro v member path has
    obtain ⟨index, key⟩ := h.keys v member
    obtain ⟨place, found⟩ := h.found single distinct sparing v member path has
    obtain rfl := h.paths v member path has
    rw [key] at found ⊢
    obtain ⟨holder, located, rfl⟩ := place_of_script single found
    exact ⟨holder, located, found⟩
  constructor
  · intro v member path has
    obtain ⟨index, key⟩ := h.keys v member
    refine ⟨?_, lies v member path has⟩
    intro among
    have within := List.mem_flatMap.mpr
      ⟨'/', among, show Path.slash ∈ String.utf8EncodeChar '/' by decide⟩
    rw [key] at within
    exact Script.slash_not_mem_fileName single within
  · intro v member w member' different path path' has has' place entry place' entry' found found'
    obtain ⟨holder, -, first⟩ := lies v member path has
    obtain ⟨holder', -, second⟩ := lies w member' path' has'
    rw [found] at first
    rw [found'] at second
    simp only [Except.ok.injEq, Prod.mk.injEq] at first second
    rw [first.1, second.1]
    intro same
    obtain ⟨-, names⟩ := List.append_inj' same rfl
    have texts := Utf8.encode_inj (List.singleton_inj.mp names)
    simp only [String.append_assoc, String.append_left_inj] at texts
    exact different texts

/-- Where no log is kept and no two tasks have the same key, the scripts that a run wrote to the
    output directory are all there at its end, each in its own file, exactly if the extension
    contains no separator. A run that wrote nothing has nothing to keep. Which file a script was
    written to is what the output says of it. -/
theorem written_scripts_stay_iff (config : Config) (color : Bool) (tree : FileTree)
    (faults : List (Option DiskFault)) (operator : Operator) (sink : Sink) (stamp : Audit.Stamp)
    (readings : List Reading) (directory : String)
    (set : config.outputDirectory = some directory) (unlogged : config.eventsFile = none) :
    let start := opened config color tree faults operator sink stamp
    let t := run start readings
    let done := rounds (introduced start) (t.exchanges.map (·.reading))
    ((deliveries done).map (·.script.key)).Nodup → (∀ x ∈ done, x.Sparing) →
    (StayWritten t.desk.tree (Path.ofString directory) config.scriptExtension (deliveries done) ↔
      '/' ∉ config.scriptExtension.toList ∨ ∀ v ∈ deliveries done, v.path = none) ∧
    (sink.Accepts → ∀ x ∈ done, ∀ v path, x.delivery? = some v → v.path = some path →
      ∃ more, x.after.sink.taken =
        x.before.sink.taken ++ ("[+] Wrote " ++ path.display ++ "\n") ++ more) := by
  intro start t done distinct sparing
  have settings : (introduced start).config = config := (introduced_echoed start).alike.config
  have shelved : Shelved config directory done
      (stand (introduced start) (t.exchanges.map (·.reading))) := by
    rw [← settings] at set unlogged ⊢
    exact shelved_of_rounds unlogged set _
  have files : t.desk.tree = (stand (introduced start) (t.exchanges.map (·.reading))).tree := by
    obtain ⟨sink', -, same⟩ := run_desk start readings
    rw [same]
  refine ⟨⟨?_, ?_⟩, ?_⟩
  · intro stays
    by_cases wrote : ∃ v ∈ deliveries done, ∃ path, v.path = some path
    · obtain ⟨v, member, path, has⟩ := wrote
      refine .inl fun separates => (stays.lies v member path has).1 ?_
      rw [String.toList_append]
      exact List.mem_append_right _ separates
    · refine .inr fun v member => ?_
      cases has : v.path with
      | none => rfl
      | some path => exact (wrote ⟨v, member, path, has⟩).elim
  · rintro (single | nothing)
    · rw [files]
      exact shelved.stayWritten single distinct sparing
    · constructor
      · intro v member path has
        simp [nothing v member] at has
      · intro v member w member' different path path' has
        simp [nothing v member] at has
  · intro accepts x member v path delivered has
    obtain ⟨task, made, rfl⟩ := Option.map_eq_some_iff.mp delivered
    obtain ⟨past, later, split⟩ := List.append_of_mem member
    obtain ⟨heardSoFar, -, before⟩ := rounds_split split
    have alike := setting_stand (introduced start) heardSoFar
    refine reports_of_file (d := x.before) ?_ ?_ made has
    · rw [before, alike.config, settings, unlogged]
    · rw [before]
      exact accepts_of_refusal alike.refusal (Frame.accepts (introduced_echoed start) accepts)

/-- Two tasks whose scripts are written to a directory that has to be made. -/
theorem written_scripts_stay_of_two :
    ∃ config operator readings,
      config = { Config.default with outputDirectory := some "out" } ∧
      operator = Operator.scripted
        [.ok "host", .ok "user", .ok "word", .ok "host", .ok "other", .ok "word"] [] ∧
      readings = [.line "new", .line "credentials", .line "complete", .line "new",
        .line "credentials", .line "complete"] ∧
      let start := opened config false ⟨[], []⟩ [] operator .unlimited ⟨⟨0, 0, 0⟩, "me"⟩
      let t := run start readings
      let done := rounds (introduced start) (t.exchanges.map (·.reading))
      (deliveries done).map (fun v => (v.script.key, v.path.isSome)) =
        [("RemoteDesktop_1", true), ("RemoteDesktop_2", true)] ∧
      StayWritten t.desk.tree (Path.ofString "out") "au3" (deliveries done) := by
  -- The values are named first, so that no step of the proof carries the run out but the two that
  -- look at what it delivers.
  obtain ⟨config, settings⟩ : ∃ c, c = { Config.default with outputDirectory := some "out" } :=
    ⟨_, rfl⟩
  obtain ⟨operator, answers⟩ : ∃ o, o = Operator.scripted
      [.ok "host", .ok "user", .ok "word", .ok "host", .ok "other", .ok "word"] [] := ⟨_, rfl⟩
  obtain ⟨readings, typed⟩ : ∃ r : List Reading, r = [.line "new", .line "credentials",
      .line "complete", .line "new", .line "credentials", .line "complete"] := ⟨_, rfl⟩
  have set : config.outputDirectory = some "out" := by rw [settings]
  have unlogged : config.eventsFile = none := by
    rw [settings]
    rfl
  have extension : config.scriptExtension = "au3" := by
    rw [settings]
    rfl
  have delivered : (deliveries (rounds (introduced
      (opened config false ⟨[], []⟩ [] operator .unlimited ⟨⟨0, 0, 0⟩, "me"⟩))
      ((run (opened config false ⟨[], []⟩ [] operator .unlimited ⟨⟨0, 0, 0⟩, "me"⟩)
        readings).exchanges.map (·.reading)))).map (fun v => (v.script.key, v.path.isSome)) =
        [("RemoteDesktop_1", true), ("RemoteDesktop_2", true)] := by
    rw [settings, answers, typed]
    decide +kernel
  have sound : ∀ x ∈ rounds (introduced
      (opened config false ⟨[], []⟩ [] operator .unlimited ⟨⟨0, 0, 0⟩, "me"⟩))
      ((run (opened config false ⟨[], []⟩ [] operator .unlimited ⟨⟨0, 0, 0⟩, "me"⟩)
        readings).exchanges.map (·.reading)), x.before.faults.isEmpty = true := by
    rw [settings, answers, typed]
    decide +kernel
  have distinct {vs : List Delivery} (h : vs.map (fun v => (v.script.key, v.path.isSome)) =
      [("RemoteDesktop_1", true), ("RemoteDesktop_2", true)]) :
      (vs.map (·.script.key)).Nodup := by
    have keys := congrArg (List.map Prod.fst) h
    rw [List.map_map] at keys
    rw [show vs.map (·.script.key) = _ from keys]
    decide
  have sparing (x : Round) (faults : x.before.faults.isEmpty = true) : x.Sparing := by
    intro _ fault later same
    simp [same] at faults
  obtain ⟨⟨-, stays⟩, -⟩ := written_scripts_stay_iff config false ⟨[], []⟩ [] operator .unlimited
    ⟨⟨0, 0, 0⟩, "me"⟩ readings "out" set unlogged (distinct delivered)
    fun x member => sparing x (sound x member)
  rw [extension] at stays
  exact ⟨config, operator, readings, settings, answers, typed, delivered,
    stays (.inl (by decide))⟩

/-- Two scripts in one file do not both stay. -/
theorem not_stayWritten_of_shared {t : FileTree} {directory : Path} {extension key key' : String}
    {vs : List Delivery} {place : Place} (different : key ≠ key')
    (delivered : vs.map (fun v => (v.script.key, v.path.isSome)) = [(key, true), (key', true)])
    (shared : ∀ v ∈ vs, ∀ path ∈ v.path, (t.find path).toOption.map (·.1) = some place) :
    ¬ StayWritten t directory extension vs := by
  intro stays
  obtain ⟨v, rest, rfl, first, others⟩ := List.map_eq_cons_iff.mp delivered
  obtain ⟨w, rest, rfl, second, -⟩ := List.map_eq_cons_iff.mp others
  simp only [Prod.mk.injEq, Option.isSome_iff_exists] at first second
  obtain ⟨rfl, path, has⟩ := first
  obtain ⟨rfl, path', has'⟩ := second
  have standing {x : Delivery} (member : x ∈ v :: w :: rest) {p : Path} (named : x.path = some p) :
      ∃ entry, t.find p = .ok (place, entry) := by
    have stands := shared x member p named
    cases found : t.find p with
    | error e => simp [found, Except.toOption] at stands
    | ok standing =>
        simp only [found, Except.toOption, Option.map_some, Option.some.injEq] at stands
        exact ⟨standing.2, by rw [← stands]⟩
  obtain ⟨entry, found⟩ := standing (by simp) has
  obtain ⟨entry', found'⟩ := standing (by simp) has'
  exact stays.apart v (by simp) w (by simp) different path path' has has' place entry place entry'
    found found' rfl

/-- With a separator in the extension, which the rules for settings let through, the scripts of two
    tasks are written to one file. The second takes the place of the first, and neither is printed
    at the end. -/
theorem written_script_replaced :
    let config := { Config.default with
      outputDirectory := some "out", scriptExtension := "a/../same.au3" }
    let start := opened config false ⟨[], []⟩ []
      (.scripted [.ok "host", .ok "user", .ok "word", .ok "host", .ok "other", .ok "word"] [])
      .unlimited ⟨⟨0, 0, 0⟩, "me"⟩
    let t := run start [.line "new", .line "credentials", .line "complete", .line "new",
      .line "credentials", .line "complete"]
    let done := rounds (introduced start) (t.exchanges.map (·.reading))
    config.validate.isOk ∧
    (deliveries done).map (fun v => (v.script.key, v.path.isSome)) =
      [("RemoteDesktop_1", true), ("RemoteDesktop_2", true)] ∧
    (∀ v ∈ deliveries done, ∀ path ∈ v.path, (t.desk.tree.find path).toOption.map (·.1) =
      some [Utf8.encode "out", Utf8.encode "same.au3"]) ∧
    pending t.desk = [] ∧
    ¬ StayWritten t.desk.tree (Path.ofString "out") config.scriptExtension (deliveries done) := by
  intro config start t done
  have delivered : (deliveries done).map (fun v => (v.script.key, v.path.isSome)) =
      [("RemoteDesktop_1", true), ("RemoteDesktop_2", true)] := by decide +kernel
  have shared : ∀ v ∈ deliveries done, ∀ path ∈ v.path,
      (t.desk.tree.find path).toOption.map (·.1) =
        some [Utf8.encode "out", Utf8.encode "same.au3"] := by decide +kernel
  exact ⟨by decide +kernel, delivered, shared, by decide +kernel,
    not_stayWritten_of_shared (by decide) delivered shared⟩

end Shell

end RemoteDesk
