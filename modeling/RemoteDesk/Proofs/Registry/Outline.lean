import RemoteDesk.Proofs.FileTree.Outline
import RemoteDesk.Registry

/-! # Loading without looking at texts

Which files can be loaded, and under which ids, depends on the outline of the files alone. Registries
that have the same ids have the same ids again after loading from trees with the same outline, and
fail with the same errors.
-/

namespace RemoteDesk.Registry

variable {r r' : Registry}

theorem insert_of_ids (same : r'.ids = r.ids) (id fragment fragment' : String) :
    (r'.insert id fragment').map ids = (r.insert id fragment).map ids := by
  unfold insert
  split
  · have put (r : Registry) (fragment : String) : ids ⟨r.subtasks.put id fragment⟩ =
        if id ∈ r.ids then r.ids else r.ids ++ [id] :=
      Catalog.names_put id fragment r.subtasks
    exact congrArg Except.ok (by rw [put, put, same])
  · rfl

variable {t t' : FileTree} (trees : t'.outline = t.outline)

include trees

theorem loadFile_of_outline (same : r'.ids = r.ids) (id : String) (path : Path) :
    (r'.loadFile t' id path).map ids = (r.loadFile t id path).map ids := by
  have read := t'.readText_outline path
  rw [trees, FileTree.readText_outline] at read
  unfold loadFile
  rcases cases_of_map_eq read with ⟨e, first, second⟩ | ⟨text, text', first, second, -⟩
  · rw [first, second]
  · rw [first, second]
    exact insert_of_ids same id text text'

theorem loadStem_of_outline (same : r'.ids = r.ids) (path : Path) :
    (r'.loadStem t' path).map (Prod.map id ids) = (r.loadStem t path).map (Prod.map id ids) := by
  unfold loadStem
  cases (path.fileName?.map Path.stem).bind Utf8.decode? with
  | none => rfl
  | some name =>
      rcases cases_of_map_eq (loadFile_of_outline trees same name path) with
        ⟨e, second, first⟩ | ⟨g', g, second, first, known⟩
      · simp only [first, second]
      · simp only [first, second]
        exact congrArg (fun known => Except.ok (name, known)) known

theorem loadAll_of_outline (same : r'.ids = r.ids) (paths : List Path) :
    Prod.map id ids (r'.loadAll t' paths) = Prod.map id ids (r.loadAll t paths) := by
  induction paths generalizing r r' with
  | nil => exact Prod.ext rfl same
  | cons path others ih =>
      unfold loadAll
      rcases cases_of_map_eq (loadStem_of_outline trees same path) with
        ⟨e, second, first⟩ | ⟨⟨name', g'⟩, ⟨name, g⟩, second, first, loaded⟩
      · simp only [first, second]
        exact Prod.ext rfl same
      · simp only [first, second]
        obtain ⟨rfl, known⟩ : name' = name ∧ g'.ids = g.ids := Prod.mk.inj loaded
        obtain ⟨answers, last⟩ := Prod.mk.inj (ih known)
        exact Prod.ext (congrArg (Except.map (name' :: ·)) answers) last

theorem loadDirectory_of_outline (same : r'.ids = r.ids) (directory : Path) (pattern : String) :
    Prod.map id ids (r'.loadDirectory t' directory pattern) =
      Prod.map id ids (r.loadDirectory t directory pattern) := by
  have files (path : Path) : t'.isFile path = t.isFile path := by
    rw [← FileTree.isFile_outline, trees, FileTree.isFile_outline]
  have listed : t'.list directory = t.list directory := by
    rw [← FileTree.list_outline, trees, FileTree.list_outline]
  unfold loadDirectory
  cases Glob.parse pattern with
  | error e => exact Prod.ext rfl same
  | ok glob =>
      simp only [listed]
      cases t.list directory with
      | error e => exact Prod.ext rfl same
      | ok names =>
          simp only [matching, files]
          exact loadAll_of_outline trees same _

end RemoteDesk.Registry
