import Mathlib.Data.List.Basic
import Mathlib.Data.List.Induction
import RemoteDesk.Catalog

/-! # Catalogs that are filled in a row

Of a row of texts that are put under their names one after another, each name stands once, where it
first came, and with the text that came last. Where no name comes twice, that is the row itself. The
texts of a catalog with distinct names are what looking its names up gives.
-/

namespace RemoteDesk.Catalog

/-- Puts the texts of a list under their names, one after another. -/
def putAll (entries : Catalog) : Catalog :=
  entries.foldl (fun c entry => put entry.1 entry.2 c) []

theorem putAll_append (entries : Catalog) (name text : String) :
    putAll (entries ++ [(name, text)]) = put name text (putAll entries) := by
  rw [putAll, List.foldl_append]
  rfl

/-- Each name stands where it first came. -/
theorem names_putAll (entries : Catalog) : names (putAll entries) = (names entries).eraseDups := by
  induction entries using List.reverseRecOn with
  | nil => rfl
  | append_singleton front last ih =>
      obtain ⟨name, text⟩ := last
      have single : names [(name, text)] = [name] := rfl
      rw [putAll_append, names_put, ih, names_append, single, List.eraseDups_append]
      by_cases known : name ∈ names front
      · simp [known, List.removeAll]
      · simp [known, List.removeAll, List.eraseDups_cons]

theorem putAll_of_nodup {entries : Catalog} (nodup : (names entries).Nodup) :
    putAll entries = entries := by
  induction entries using List.reverseRecOn with
  | nil => rfl
  | append_singleton front last ih =>
      obtain ⟨name, text⟩ := last
      rw [names_append, List.nodup_append] at nodup
      obtain ⟨earlier, -, apart⟩ := nodup
      have fresh : name ∉ names front := by
        intro member
        exact apart name member name (List.mem_singleton_self name) rfl
      rw [putAll_append, ih earlier, put_of_not_mem fresh]

theorem nodup_putAll (entries : Catalog) : (names (putAll entries)).Nodup := by
  induction entries using List.reverseRecOn with
  | nil => exact List.nodup_nil
  | append_singleton front last ih =>
      rw [putAll_append]
      exact nodup_put ih last.1 last.2

/-! ## The text that came last -/

theorem get?_eq_none_iff {name : String} {c : Catalog} : get? name c = none ↔ name ∉ names c := by
  induction c with
  | nil => simp [get?, names]
  | cons entry rest ih =>
      obtain ⟨other, text⟩ := entry
      rw [names_cons, List.mem_cons, not_or, get?]
      split
      · next same => simp [same]
      · next different => rw [ih, and_iff_right (Ne.symm different)]

/-- The text of a name is the one that it first stands with. -/
theorem get?_of_split {name : String} {before : Catalog} (h : name ∉ names before) (text : String)
    (after : Catalog) : get? name (before ++ (name, text) :: after) = some text := by
  induction before with
  | nil => simp [get?]
  | cons entry rest ih =>
      obtain ⟨other, old⟩ := entry
      rw [names_cons, List.mem_cons, not_or] at h
      rw [List.cons_append, get?, if_neg (Ne.symm h.1), ih h.2]

theorem get?_eq_some_iff {name text : String} {c : Catalog} :
    get? name c = some text ↔
      ∃ before after : Catalog, c = before ++ (name, text) :: after ∧ name ∉ names before := by
  constructor
  · intro found
    have known : name ∈ names c := by
      by_contra absent
      rw [get?_eq_none_iff.mpr absent] at found
      cases found
    obtain ⟨before, old, after, rfl, absent⟩ := split_of_mem known
    rw [get?_of_split absent] at found
    rw [Option.some.inj found]
    exact ⟨before, after, rfl, absent⟩
  · rintro ⟨before, after, rfl, absent⟩
    exact get?_of_split absent text after

theorem mem_iff_get? {c : Catalog} (nodup : (names c).Nodup) {entry : String × String} :
    entry ∈ c ↔ get? entry.1 c = some entry.2 := by
  constructor
  · exact get?_of_mem nodup
  · intro found
    obtain ⟨before, after, rfl, -⟩ := get?_eq_some_iff.mp found
    simp

/-- The last text that a row has under a name. -/
def LastUnder (entries : Catalog) (name text : String) : Prop :=
  ∃ before after : Catalog, entries = before ++ (name, text) :: after ∧ name ∉ names after

/-- What comes last in a row comes first in the reversed row. -/
theorem get?_reverse_eq_some_iff {name text : String} {entries : Catalog} :
    get? name entries.reverse = some text ↔ LastUnder entries name text := by
  have absent_reverse {c : Catalog} : name ∉ names c.reverse ↔ name ∉ names c := by
    rw [names, List.map_reverse, List.mem_reverse, ← names]
  rw [get?_eq_some_iff]
  constructor
  · rintro ⟨before, after, same, absent⟩
    refine ⟨after.reverse, before.reverse, ?_, absent_reverse.mpr absent⟩
    rw [← List.reverse_reverse entries, same]
    simp
  · rintro ⟨before, after, rfl, absent⟩
    exact ⟨after.reverse, before.reverse, by simp, absent_reverse.mpr absent⟩

theorem exists_lastUnder {name : String} {entries : Catalog} (h : name ∈ names entries) :
    ∃ text, LastUnder entries name text := by
  have known : get? name entries.reverse ≠ none := by
    rw [ne_eq, get?_eq_none_iff, not_not, names, List.map_reverse, List.mem_reverse]
    exact h
  obtain ⟨text, found⟩ := Option.ne_none_iff_exists'.mp known
  exact ⟨text, get?_reverse_eq_some_iff.mp found⟩

/-- A row that is put into a catalog hides what the catalog has under the names of the row. -/
theorem get?_foldl_put (name : String) (entries c : Catalog) :
    get? name (entries.foldl (fun c entry => put entry.1 entry.2 c) c) =
      (get? name entries.reverse).or (get? name c) := by
  induction entries using List.reverseRecOn with
  | nil => rfl
  | append_singleton front last ih =>
      obtain ⟨other, text⟩ := last
      rw [List.foldl_append, List.foldl_cons, List.foldl_nil, List.reverse_concat, get?]
      split
      · next same => rw [same, get?_put_self, Option.some_or]
      · next different => rw [get?_put_of_ne (Ne.symm different), ih]

theorem get?_putAll (name : String) (entries : Catalog) :
    get? name (putAll entries) = get? name entries.reverse := by
  rw [putAll, get?_foldl_put, get?, Option.or_none]

/-- The texts whose names pass a test, in order. -/
theorem filterMap_get? {c : Catalog} (nodup : (names c).Nodup) (test : String → Bool) :
    ((names c).filter test).filterMap (fun name => get? name c) =
      (c.filter fun entry => test entry.1).map (·.2) := by
  rw [names, List.filter_map, List.filterMap_map, ← List.filterMap_eq_map]
  apply List.filterMap_congr
  intro entry member
  exact get?_of_mem nodup (List.mem_of_mem_filter member)

end RemoteDesk.Catalog
