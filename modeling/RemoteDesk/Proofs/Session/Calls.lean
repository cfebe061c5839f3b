import RemoteDesk.Proofs.Script.Key
import RemoteDesk.Proofs.Script.Projections
import RemoteDesk.Proofs.Session.Reachable

/-! # What an entry function calls

An entry function calls the subtasks that wait when its task is completed, and nothing else. Its own
name is a function name, so a subtask can be registered under it, before the task is started or after
that. Nothing looks at the index then, and the entry function calls itself.
-/

namespace RemoteDesk

namespace Script

/-! ## Calls without their margin -/

/-- The function that a line calls, whatever white space stands before it. -/
def callee? (line : List Char) : Option String :=
  (called? line).map fun call => String.ofList (Text.trimStart call.toList)

/-- The functions that the lines of a text call, in order. -/
def callees (text : String) : List String :=
  (Text.lines text.toList).filterMap callee?

theorem callees_eq (text : String) :
    callees text = (calledIds text).map fun call => String.ofList (Text.trimStart call.toList) := by
  rw [callees, calledIds, List.map_filterMap]
  rfl

theorem mem_callees_iff {text name : String} :
    name ∈ callees text ↔ ∃ line ∈ Text.lines text.toList, callee? line = some name := by
  rw [callees, List.mem_filterMap]

theorem trimStart_of_isSubtaskId {id : String} (valid : isSubtaskId id) :
    Text.trimStart id.toList = id.toList := by
  obtain ⟨c, rest, same, -⟩ := isSubtaskId_start valid
  have visible : Text.isBlankChar c = false :=
    not_blank_of_isIdPart (isIdPart_of_mem valid (same ▸ List.mem_cons_self))
  rw [same]
  exact List.dropWhile_cons_of_neg (by simp [visible])

/-- A call section calls its subtasks in order, and nothing else. -/
theorem callees_callSection {c : Catalog} (valid : ∀ s ∈ c, isSubtaskId s.1) :
    callees (callSection c) = c.names := by
  have below : ∀ id ∈ c.names, String.ofList (Text.trimStart (callMargin ++ id).toList) = id := by
    intro id member
    obtain ⟨s, waits, rfl⟩ := List.mem_map.mp member
    rw [String.toList_append, trimStart_margin isMargin_callMargin,
      trimStart_of_isSubtaskId (valid s waits), String.ofList_toList]
  rw [callees_eq, (read_callSection valid).1, List.map_map]
  exact (List.map_congr_left below).trans (List.map_id' _)

end Script

/-- Every registry takes a fragment under the key of every task. -/
theorem Registry.insert_taskKey (r : Registry) (index : UInt32) (fragment : String) :
    r.insert (Script.taskKey index) fragment =
      .ok ⟨r.subtasks.put (Script.taskKey index) fragment⟩ :=
  if_pos (Script.isSubtaskId_taskKey index)

namespace Session

open Script

/-- Whatever waits when a task is completed, the entry function of its script calls the ids that wait,
    each once and in order. So it calls itself if and only if a subtask waits under its own name; and
    there can be one, as every registry takes a fragment under that name. -/
theorem entry_calls_itself_iff {r : Registry} (filled : r.Filled) {s : Session} {σ : Type}
    [TaskSink σ] {sink : σ} {escaped : Bool} {task : CompletedTask}
    (completed : (s.complete r sink escaped).1 = .ok task) :
    s.taskIndex = some task.index ∧ task.script.key = taskKey task.index ∧
      (s.complete r sink escaped).2.2.2 = TaskSink.add sink task.script.key task.script.text ∧
      (∃ typed : Credentials, task.script.text = declaration task.index
        ++ openSequence task.index typed.computer typed.username typed.password
        ++ callSection r.subtasks ++ closeSequence ++ bodies r.subtasks) ∧
      callees (callSection r.subtasks) = r.ids ∧ r.ids.Nodup ∧
      ((∃ line ∈ Text.lines (callSection r.subtasks).toList,
        callee? line = some task.script.key) ↔ task.script.key ∈ r.ids) ∧
      (Text.lines (callSection r.subtasks).toList).count (callLine task.script.key).toList =
        r.ids.count task.script.key ∧
      ∀ (other : Registry) (fragment : String),
        other.insert task.script.key fragment =
          .ok ⟨other.subtasks.put task.script.key fragment⟩ := by
  obtain ⟨distinct, valid⟩ := filled.sound
  have calls : callees (callSection r.subtasks) = r.ids := callees_callSection valid
  rcases s.complete_cases r sink escaped with ⟨index, indexed, -, accepted⟩ | ⟨-, refused⟩
  · rw [accepted] at completed ⊢
    obtain rfl := Except.ok.inj completed
    refine ⟨indexed, rfl, rfl, ⟨_, rfl⟩, calls, distinct, ?_,
      count_callSection valid (isSubtaskId_taskKey index), fun other => other.insert_taskKey index⟩
    rw [← mem_callees_iff, calls]
  · rw [refused] at completed
    cases completed

/-- Keys of other tasks wait, and names around the own key: none of them is the own key. -/
theorem entry_calls_itself_iff_beside_other_keys :
    let given := Operator.scripted [.ok "10.0.0.5", .ok "alice", .ok "s3cr3t"] []
    let s := ((Session.new.start ⟨1⟩).2.capture given).2.1
    let r : Registry := ⟨[("RemoteDesktop_11", "; a\n"), ("_RemoteDesktop_1", ""),
      ("RemoteDesktop_2", "; b")]⟩
    s.Reachable ∧ r.Filled ∧ ∃ task, (s.complete r Store.empty true).1 = .ok task ∧
      task.script.key = taskKey 1 ∧
      callees (callSection r.subtasks) =
        ["RemoteDesktop_11", "_RemoteDesktop_1", "RemoteDesktop_2"] ∧
      ∀ line ∈ Text.lines (callSection r.subtasks).toList,
        callee? line ≠ some task.script.key := by
  intro given s r
  have first : Registry.empty.insert "RemoteDesktop_11" "; a\n" =
      .ok ⟨[("RemoteDesktop_11", "; a\n")]⟩ := by rfl
  have second : Registry.insert ⟨[("RemoteDesktop_11", "; a\n")]⟩ "_RemoteDesktop_1" "" =
      .ok ⟨[("RemoteDesktop_11", "; a\n"), ("_RemoteDesktop_1", "")]⟩ := by rfl
  have third : Registry.insert ⟨[("RemoteDesktop_11", "; a\n"), ("_RemoteDesktop_1", "")]⟩
      "RemoteDesktop_2" "; b" = .ok r := by rfl
  have filled : r.Filled := .insert third (.insert second (.insert first .empty))
  obtain ⟨task, completed⟩ : ∃ task, (s.complete r Store.empty true).1 = .ok task :=
    (s.complete_ok_iff r Store.empty true).mpr ⟨rfl, rfl⟩
  obtain ⟨indexed, key, -, -, calls, -, itself, -⟩ := entry_calls_itself_iff filled completed
  have index : task.index = 1 := (Option.some.inj indexed).symm
  rw [index] at key
  have absent : task.script.key ∉ r.ids := by
    rw [key]
    decide
  refine ⟨.capture given (.start ⟨1⟩ .new), filled, task, completed, key, calls, ?_⟩
  intro line member call
  exact absent (itself.mp ⟨line, member, call⟩)

/-- A subtask waits under the name of the entry function, which therefore calls itself. -/
theorem entry_calls_itself :
    let given := Operator.scripted [.ok "10.0.0.5", .ok "alice", .ok "s3cr3t"] []
    let s := ((Session.new.start ⟨1⟩).2.capture given).2.1
    let r : Registry := ⟨[("RemoteDesktop_1", "; body\n")]⟩
    let script := assemble 1 ⟨"10.0.0.5", "alice", "s3cr3t"⟩ r.subtasks false
    s.Reachable ∧ Registry.empty.insert "RemoteDesktop_1" "; body\n" = .ok r ∧
      (s.complete r Store.empty false).1 = .ok ⟨1, script, ["RemoteDesktop_1"]⟩ ∧
      script.key = "RemoteDesktop_1" ∧
      script.text = declaration 1 ++ openSequence 1 "10.0.0.5" "alice" "s3cr3t"
        ++ callSection r.subtasks ++ closeSequence ++ bodies r.subtasks ∧
      "        RemoteDesktop_1()\n".toList ∈ Text.lines (callSection r.subtasks).toList ∧
      callees (callSection r.subtasks) = [script.key] := by
  intro given s r script
  have accepted : Registry.empty.insert "RemoteDesktop_1" "; body\n" = .ok r := by rfl
  have valid : ∀ s ∈ r.subtasks, isSubtaskId s.1 :=
    (Registry.Filled.insert accepted .empty).sound.valid
  have own : script.key = "RemoteDesktop_1" := by decide +kernel
  have call : "        RemoteDesktop_1()\n" = callLine "RemoteDesktop_1" := by decide +kernel
  have counted := count_callSection valid (valid _ List.mem_cons_self)
  refine ⟨.capture given (.start ⟨1⟩ .new), accepted, rfl, own, rfl, ?_, ?_⟩
  · rw [call, ← List.count_pos_iff, counted]
    decide
  · rw [own]
    exact callees_callSection valid

end Session

end RemoteDesk
