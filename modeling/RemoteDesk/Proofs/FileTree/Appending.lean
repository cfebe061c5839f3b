import RemoteDesk.Proofs.FileTree.Changes

/-! # Adding to a file

What is added to the file of a path comes behind what the file held, in the order in which it is
added, and no other file changes. The path may come to lead somewhere only once directories have been
made for it; from then on it leads to the same place.
-/

namespace RemoteDesk.FileTree

/-- What the file at a place holds; nothing, if there is none. -/
def contentAt (t : FileTree) (place : Place) : Bytes :=
  match t.entry? place with
  | some (.file content) => content
  | _ => []

section Contents

variable {t t' t'' : FileTree} {p : Path} {directory place : Place} {name content : Bytes}

theorem contentAt_of_file (h : t.entry? place = some (.file content)) :
    t.contentAt place = content := by
  rw [contentAt, h]

theorem file_of_contentAt (h : t.contentAt place ≠ []) :
    t.entry? place = some (.file (t.contentAt place)) := by
  unfold contentAt at h ⊢
  split
  · next stands => exact stands
  · next other =>
      split at h
      · next content stands => exact (other content stands).elim
      · exact (h rfl).elim

theorem Grows.contentAt (h : t.Grows t') (place : Place) : t'.contentAt place = t.contentAt place := by
  rcases h.entry place with same | ⟨absent, made⟩
  · rw [FileTree.contentAt, FileTree.contentAt, same]
  · rw [FileTree.contentAt, FileTree.contentAt, absent, made]

theorem contentAt_set_of_ne (different : place ≠ directory) (entry : Entry) :
    (t.set directory entry).contentAt place = t.contentAt place := by
  rw [contentAt, contentAt, t.entry?_set_of_ne different]

/-- The path leads to this place, where a file stands or may be put. -/
def Opens (t : FileTree) (p : Path) (place : Place) : Prop :=
  ∃ directory name, t.Leads p directory name ∧ place = directory ++ [name]

theorem Opens.unique {other : Place} (h : t.Opens p place) (h' : t.Opens p other) :
    place = other := by
  obtain ⟨directory, name, leads, rfl⟩ := h
  obtain ⟨directory', name', leads', rfl⟩ := h'
  have same := Except.ok.inj (leads.approached.symm.trans leads'.approached)
  obtain ⟨rfl, named⟩ := Prod.mk.inj same
  rw [Option.some.inj named]

theorem Opens.later {spared : Place → Prop} (h : t.Opens p place) (keeps : t.Keeps spared t') :
    t'.Opens p place := by
  obtain ⟨directory, name, leads, same⟩ := h
  exact ⟨directory, name, leads.later keeps, same⟩

theorem Opens.find (h : t.Opens p place) (nonempty : t.contentAt place ≠ []) :
    t.find p = .ok (place, .file (t.contentAt place)) := by
  obtain ⟨directory, name, leads, rfl⟩ := h
  exact leads.find (file_of_contentAt nonempty)

/-- A file that could be read is at the place to which the path still leads. -/
theorem Opens.contentAt_of_read {spared : Place → Prop} (h : t'.Opens p place)
    (keeps : t.Keeps spared t') (read : t.read p = .ok content) : t.contentAt place = content := by
  obtain ⟨directory, name, leads, rfl⟩ := h
  unfold FileTree.read at read
  rcases found : t.find p with e | ⟨stood, held | _⟩
  · simp [found] at read
  · obtain rfl : held = content := by simpa [found] using read
    obtain ⟨start, component, approached, stepped, stands, -⟩ := approach_of_find found
    have same := Except.ok.inj ((keeps.approach approached).symm.trans leads.approached)
    obtain ⟨rfl, named⟩ := Prod.mk.inj same
    obtain rfl := Option.some.inj named
    obtain rfl := Except.ok.inj (stepped.symm.trans leads.stepped)
    exact contentAt_of_file stands
  · simp [found] at read

end Contents

/-- Directories may have been made, and `more` has been added to the file of a path. -/
structure Extends (t : FileTree) (p : Path) (more : Bytes) (t' : FileTree) : Prop where
  keeps : t.Keeps (fun _ => False) t'
  added : ∀ place, t'.Opens p place → t'.contentAt place = t.contentAt place ++ more
  elsewhere : ∀ place, ¬ t'.Opens p place → t'.contentAt place = t.contentAt place
  opens : more ≠ [] → ∃ place, t'.Opens p place

namespace Extends

variable {t t' t'' : FileTree} {p : Path} {more later : Bytes}

theorem of_grows (h : t.Grows t') (p : Path) : t.Extends p [] t' where
  keeps := h.keeps _
  added place _ := by rw [h.contentAt, List.append_nil]
  elsewhere place _ := h.contentAt place
  opens nonempty := (nonempty rfl).elim

theorem trans (h : t.Extends p more t') (h' : t'.Extends p later t'') :
    t.Extends p (more ++ later) t'' := by
  refine ⟨h.keeps.trans h'.keeps, ?_, ?_, ?_⟩
  · intro place opens
    rw [h'.added place opens, ← List.append_assoc]
    congr 1
    by_cases before : t'.Opens p place
    · exact h.added place before
    · -- If something had been added before, the path would have led there then.
      have empty : more = [] := by
        apply Decidable.byContradiction
        intro nonempty
        obtain ⟨other, led⟩ := h.opens nonempty
        obtain rfl := (led.later h'.keeps).unique opens
        exact before led
      rw [empty, List.append_nil, h.elsewhere place before]
  · intro place closed
    have before : ¬ t'.Opens p place := fun opens => closed (opens.later h'.keeps)
    rw [h'.elsewhere place closed, h.elsewhere place before]
  · intro nonempty
    by_cases empty : later = []
    · rw [empty, List.append_nil] at nonempty
      obtain ⟨place, opens⟩ := h.opens nonempty
      exact ⟨place, opens.later h'.keeps⟩
    · exact h'.opens empty

/-- What is added is there, behind what was there before. -/
theorem find (h : t.Extends p more t') (nonempty : more ≠ []) :
    ∃ place, t'.find p = .ok (place, .file (t.contentAt place ++ more)) ∧
      ∀ content, t.read p = .ok content → t.contentAt place = content := by
  obtain ⟨place, opens⟩ := h.opens nonempty
  have content := h.added place opens
  refine ⟨place, ?_, fun _ read => opens.contentAt_of_read h.keeps read⟩
  rw [← content]
  apply opens.find
  rw [content]
  exact fun empty => nonempty (List.append_eq_nil_iff.mp empty).2

end Extends

theorem append_extends {t t' : FileTree} {p : Path} {more : Bytes} (h : t.append p more = .ok t') :
    t.Extends p more t' := by
  simp only [append, bind, Except.bind] at h
  cases opened : t.writable p with
  | error e => simp [opened] at h
  | ok place =>
      simp only [opened] at h
      obtain ⟨directory, name, leads, rfl, free⟩ := writable_cases opened
      have named : directory ++ [name] ≠ [] := by simp
      have made : t' = t.set (directory ++ [name])
          (.file (t.contentAt (directory ++ [name]) ++ more)) := by
        rcases stands : t.entry? (directory ++ [name]) with _ | content | _
        · simpa [stands, contentAt, pure, Except.pure, eq_comm] using h
        · simpa [stands, contentAt, pure, Except.pure, eq_comm] using h
        · exact (free stands).elim
      have keeps := Keeps.set t free (.file (t.contentAt (directory ++ [name]) ++ more))
      rw [← made] at keeps
      have there : t'.Opens p (directory ++ [name]) := ⟨directory, name, leads.later keeps, rfl⟩
      refine ⟨keeps.mono (fun _ => False.elim), ?_, ?_, fun _ => ⟨_, there⟩⟩
      · intro place opens
        obtain rfl := there.unique opens
        exact contentAt_of_file (made ▸ t.entry?_set_self named _)
      · intro place closed
        rw [made]
        apply contentAt_set_of_ne
        rintro rfl
        exact closed there

end RemoteDesk.FileTree
