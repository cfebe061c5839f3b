import RemoteDesk.Proofs.Text.Reading
import RemoteDesk.Script.Connection
import RemoteDesk.Script.Fragment

/-! # Task keys

The key of a task is a function name, and the digits behind its stem are the index of the task. So
the index can be read back from the key, and two tasks with one key have one index.
-/

namespace RemoteDesk.Script

/-- The index of the task with a key. -/
def keyIndex? (key : String) : Option UInt32 :=
  (keyStem.toList.isPrefixOf? key.toList).map fun digits =>
    UInt32.ofNat (Nat.ofDigitChars 10 digits 0)

theorem toList_taskKey (index : UInt32) :
    (taskKey index).toList = keyStem.toList ++ Nat.toDigits 10 index.toNat := by
  rw [taskKey, String.toList_append, Nat.toList_repr]

theorem keyIndex?_taskKey (index : UInt32) : keyIndex? (taskKey index) = some index := by
  rw [keyIndex?, toList_taskKey, Text.isPrefixOf?_append, Option.map_some,
    Nat.ofDigitChars_toDigits (by decide) (by decide), UInt32.ofNat_toNat]

theorem taskKey_inj {index other : UInt32} : taskKey index = taskKey other ↔ index = other := by
  constructor
  · intro same
    have read := congrArg keyIndex? same
    rw [keyIndex?_taskKey, keyIndex?_taskKey] at read
    exact Option.some.inj read
  · exact congrArg taskKey

theorem isIdPart_of_isDigit {c : Char} (h : c.isDigit) : isIdPart c := by
  simp [isIdPart, Char.isAlphanum, h]

theorem isIdPart_of_mem_taskKey {index : UInt32} {c : Char} (h : c ∈ (taskKey index).toList) :
    isIdPart c := by
  rw [toList_taskKey, List.mem_append] at h
  rcases h with stem | digit
  · have all : keyStem.toList.all isIdPart := by decide
    exact List.all_eq_true.mp all c stem
  · exact isIdPart_of_isDigit (Nat.isDigit_of_mem_toDigits (by decide) (by decide) digit)

/-- The key of a task is an id like any other. -/
theorem isSubtaskId_taskKey (index : UInt32) : isSubtaskId (taskKey index) := by
  obtain ⟨rest, same⟩ : ∃ rest, (taskKey index).toList = 'R' :: rest := by
    rw [toList_taskKey]
    exact ⟨_, rfl⟩
  have parts : rest.all isIdPart := by
    refine List.all_eq_true.mpr fun c later => ?_
    exact isIdPart_of_mem_taskKey (same ▸ List.mem_cons_of_mem 'R' later)
  rw [isSubtaskId, same]
  exact parts

end RemoteDesk.Script
