import RemoteDesk.Registry

/-! # Insertions into the registry

A fragment is accepted exactly under a function name, and a file only if it can be read as a text as
well. A refused insertion has no registry to show, so nothing can have changed. Every registry that
accepted insertions lead to has distinct ids, all of them function names.
-/

namespace RemoteDesk.Registry

theorem insert_cases (r : Registry) (id fragment : String) :
    (Script.isSubtaskId id ∧ r.insert id fragment = .ok ⟨r.subtasks.put id fragment⟩) ∨
    (Script.isSubtaskId id = false ∧ r.insert id fragment = .error (.invalidSubtaskId id)) := by
  unfold insert
  cases valid : Script.isSubtaskId id with
  | true => exact .inl ⟨rfl, rfl⟩
  | false => exact .inr ⟨rfl, rfl⟩

theorem loadFile_cases (r : Registry) (t : FileTree) (id : String) (path : Path) :
    (∃ fragment, t.readText path = .ok fragment ∧ Script.isSubtaskId id ∧
      r.loadFile t id path = .ok ⟨r.subtasks.put id fragment⟩) ∨
    (∃ e, r.loadFile t id path = .error e) := by
  unfold loadFile
  cases read : t.readText path with
  | error e => exact .inr ⟨_, rfl⟩
  | ok fragment =>
      rcases r.insert_cases id fragment with ⟨valid, accepted⟩ | ⟨-, refused⟩
      · exact .inl ⟨fragment, rfl, valid, accepted⟩
      · exact .inr ⟨_, refused⟩

/-- The ids are distinct function names. -/
structure Sound (r : Registry) : Prop where
  distinct : r.ids.Nodup
  valid : ∀ s ∈ r.subtasks, Script.isSubtaskId s.1

theorem Sound.empty : Registry.empty.Sound :=
  ⟨List.nodup_nil, by simp [Registry.empty]⟩

theorem Sound.put {r : Registry} (h : r.Sound) {id : String} (valid : Script.isSubtaskId id)
    (fragment : String) : Registry.Sound ⟨r.subtasks.put id fragment⟩ := by
  refine ⟨Catalog.nodup_put h.distinct id fragment, ?_⟩
  intro s member
  rcases Catalog.mem_of_mem_put member with rfl | old
  · exact valid
  · exact h.valid s old

/-- The registries that accepted insertions lead to. -/
inductive Filled : Registry → Prop where
  | empty : Filled .empty
  | insert {r r' : Registry} {id fragment : String} (accepted : r.insert id fragment = .ok r') :
      Filled r → Filled r'

theorem Filled.sound {r : Registry} (h : r.Filled) : r.Sound := by
  induction h with
  | empty => exact .empty
  | @insert r r' id fragment accepted _ ih =>
      rcases r.insert_cases id fragment with ⟨valid, stored⟩ | ⟨-, refused⟩
      · obtain rfl := Except.ok.inj (stored.symm.trans accepted)
        exact ih.put valid fragment
      · cases refused.symm.trans accepted

theorem Filled.loadFile {r r' : Registry} (h : r.Filled) {t : FileTree} {id : String} {path : Path}
    (loaded : r.loadFile t id path = .ok r') : r'.Filled := by
  unfold Registry.loadFile at loaded
  cases read : t.readText path with
  | error e => simp [read] at loaded
  | ok fragment =>
      simp only [read] at loaded
      exact .insert loaded h

theorem Filled.loadStem {r r' : Registry} (h : r.Filled) {t : FileTree} {path : Path} {id : String}
    (loaded : r.loadStem t path = .ok (id, r')) : r'.Filled := by
  unfold Registry.loadStem at loaded
  split at loaded
  · cases loaded
  · split at loaded
    · cases loaded
    · next name _ r'' accepted =>
        obtain ⟨rfl, rfl⟩ := Prod.mk.inj (Except.ok.inj loaded)
        exact h.loadFile accepted

/-- However far a row of files is loaded, every file that was loaded was an accepted insertion. -/
theorem Filled.loadAll {r : Registry} (h : r.Filled) (t : FileTree) (paths : List Path) :
    (r.loadAll t paths).2.Filled := by
  induction paths generalizing r with
  | nil => exact h
  | cons path others ih =>
      unfold Registry.loadAll
      cases loaded : r.loadStem t path with
      | error e => exact h
      | ok found => exact ih (h.loadStem loaded)

theorem Filled.loadDirectory {r : Registry} (h : r.Filled) (t : FileTree) (directory : Path)
    (pattern : String) : (r.loadDirectory t directory pattern).2.Filled := by
  unfold Registry.loadDirectory
  split
  · exact h
  · split
    · exact h
    · exact h.loadAll t _

end RemoteDesk.Registry
