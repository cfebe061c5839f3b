import Mathlib.Data.List.Perm.Basic
import RemoteDesk.FileTree

/-! # File trees in another order

Two trees that hold the same entries, each at a place of its own, differ only in the order in which
a directory lists its names. Whatever is looked up by a path is the same in both.
-/

namespace RemoteDesk.FileTree

/-- The same entries in another order, each at a place of its own. -/
structure Reordered (t t' : FileTree) : Prop where
  entries : t'.entries.Perm t.entries
  distinct : (t.entries.map (·.1)).Nodup
  workingDirectory : t'.workingDirectory = t.workingDirectory

/-- Where places are distinct, an entry is found at its place. -/
theorem lookup_eq_some_iff {entries : List (Place × Entry)} (distinct : (entries.map (·.1)).Nodup)
    {place : Place} {entry : Entry} :
    entries.lookup place = some entry ↔ (place, entry) ∈ entries := by
  induction entries with
  | nil => simp
  | cons first rest ih =>
      obtain ⟨other, stands⟩ := first
      obtain ⟨absent, distinct⟩ := List.nodup_cons.mp distinct
      rw [List.lookup_cons, List.mem_cons]
      by_cases here : place = other
      · subst here
        have later : (place, entry) ∉ rest := fun member =>
          absent (List.mem_map.mpr ⟨(place, entry), member, rfl⟩)
        simp [later, eq_comm]
      · have elsewhere : (place == other) = false := beq_false_of_ne here
        rw [elsewhere, ih distinct]
        simp [here]

namespace Reordered

variable {t t' : FileTree} (h : t.Reordered t')

include h

theorem entry?_eq (place : Place) : t'.entry? place = t.entry? place := by
  have distinct : (t'.entries.map (·.1)).Nodup := (h.entries.map _).nodup_iff.mpr h.distinct
  have same : t'.entries.lookup place = t.entries.lookup place := by
    apply Option.ext
    intro entry
    rw [lookup_eq_some_iff distinct, lookup_eq_some_iff h.distinct]
    exact h.entries.mem_iff
  unfold entry?
  rw [same]

theorem descend_eq (directory : Place) (components : List Bytes) :
    t'.descend directory components = t.descend directory components := by
  induction components generalizing directory with
  | nil => rfl
  | cons component rest ih =>
      simp only [descend, h.entry?_eq, ih]

theorem find_eq (p : Path) : t'.find p = t.find p := by
  simp only [find, approach, h.descend_eq, h.entry?_eq, h.workingDirectory]

theorem isFile_eq (p : Path) : t'.isFile p = t.isFile p := by
  rw [isFile, isFile, h.find_eq]

theorem readText_eq (p : Path) : t'.readText p = t.readText p := by
  rw [readText, readText, read, read, h.find_eq]

/-- A directory lists the same names in another order. -/
theorem list_perm {directory : Path} {names : List Bytes} (listed : t.list directory = .ok names) :
    ∃ names', t'.list directory = .ok names' ∧ names'.Perm names := by
  unfold list at listed ⊢
  rw [h.find_eq]
  rcases found : t.find directory with e | ⟨place, content | _⟩
  · simp [found] at listed
  · simp [found] at listed
  · simp only [found, Except.ok.injEq] at listed ⊢
    subst listed
    exact ⟨_, rfl, h.entries.filterMap _⟩

end Reordered

end RemoteDesk.FileTree
