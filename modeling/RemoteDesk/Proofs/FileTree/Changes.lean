import RemoteDesk.FileTree.Replace
import RemoteDesk.Proofs.FileTree.Looking

/-! # What a change of files keeps

A change sets or removes the entry of one place, and that place holds no directory. So every
directory stays where it is, a path that was followed is followed to the same place, and a file is
still there unless its own place was written to.

Making directories only adds to a tree. Replacing a file touches two places: the target and a hidden
sibling, whose name begins with a dot.
-/

namespace RemoteDesk.FileTree

/-! ## What stands where -/

section Entries

variable (t : FileTree) {place q : Place}

theorem lookup_put_self (entry : Entry) (entries : List (Place × Entry)) :
    (set.put place entry entries).lookup place = some entry := by
  induction entries with
  | nil => simp [set.put]
  | cons first rest ih =>
      obtain ⟨held, old⟩ := first
      by_cases same : held = place
      · simp [set.put, same]
      · have differs : (place == held) = false := by simpa using Ne.symm same
        simp [set.put, same, List.lookup_cons, differs, ih]

theorem lookup_put_of_ne (different : q ≠ place) (entry : Entry) (entries : List (Place × Entry)) :
    (set.put place entry entries).lookup q = entries.lookup q := by
  have differs : (q == place) = false := by simpa using different
  induction entries with
  | nil => simp [set.put, List.lookup_cons, differs]
  | cons first rest ih =>
      obtain ⟨held, old⟩ := first
      by_cases same : held = place
      · simp [set.put, same, List.lookup_cons, differs]
      · simp [set.put, same, List.lookup_cons, ih]

theorem lookup_filter_of_ne (different : q ≠ place) (entries : List (Place × Entry)) :
    (entries.filter (·.1 ≠ place)).lookup q = entries.lookup q := by
  have differs : (q == place) = false := by simpa using different
  induction entries with
  | nil => rfl
  | cons first rest ih =>
      obtain ⟨held, old⟩ := first
      by_cases same : held = place
      · rw [List.filter_cons_of_neg (by simpa using same), ih, List.lookup_cons, same, differs]
      · rw [List.filter_cons_of_pos (by simpa using same), List.lookup_cons, List.lookup_cons, ih]

theorem lookup_filter_self (entries : List (Place × Entry)) :
    (entries.filter (·.1 ≠ place)).lookup place = none := by
  rw [List.lookup_eq_none_iff]
  intro entry member
  simpa using Ne.symm (by simpa using (List.mem_filter.mp member).2)

@[simp]
theorem entry?_nil : t.entry? [] = some .directory := by
  simp [ entry?]

theorem entry?_set_self (named : place ≠ []) (entry : Entry) :
    entry? (t.set place entry) place = some entry := by
  simp [ entry?, set, named, lookup_put_self]

theorem entry?_set_of_ne (different : q ≠ place) (entry : Entry) :
    entry? (t.set place entry) q = t.entry? q := by
  simp [ entry?, set, lookup_put_of_ne different]

theorem entry?_remove_of_ne (different : q ≠ place) : entry? (t.remove place) q = t.entry? q := by
  simp only [ entry?, remove, lookup_filter_of_ne different]

theorem entry?_remove_self (named : place ≠ []) : entry? (t.remove place) place = none := by
  simp only [ entry?, named, if_false, remove, lookup_filter_self]

end Entries

/-- Only entries at these places have changed, and no directory stood there. -/
structure Touches (t : FileTree) (places : List Place) (t' : FileTree) : Prop where
  workingDirectory : t'.workingDirectory = t.workingDirectory
  free : ∀ place ∈ places, t.entry? place ≠ some .directory
  elsewhere : ∀ place, place ∉ places → t'.entry? place = t.entry? place

namespace Touches

variable {t t' t'' : FileTree} {places others : List Place} {place : Place}

theorem set (t : FileTree) (free : t.entry? place ≠ some .directory) (entry : Entry) :
    t.Touches [place] (t.set place entry) where
  workingDirectory := rfl
  free _ member := List.mem_singleton.mp member ▸ free
  elsewhere _ other := t.entry?_set_of_ne (other ∘ List.mem_singleton.mpr) entry

theorem remove (t : FileTree) (free : t.entry? place ≠ some .directory) :
    t.Touches [place] (t.remove place) where
  workingDirectory := rfl
  free _ member := List.mem_singleton.mp member ▸ free
  elsewhere _ other := t.entry?_remove_of_ne (other ∘ List.mem_singleton.mpr)

theorem trans (h : t.Touches places t') (h' : t'.Touches others t'') :
    t.Touches (places ++ others) t'' := by
  refine ⟨h'.workingDirectory.trans h.workingDirectory, ?_, ?_⟩
  · intro q member
    by_cases before : q ∈ places
    · exact h.free q before
    · rw [← h.elsewhere q before]
      exact h'.free q ((List.mem_append.mp member).resolve_left before)
  · intro q other
    rw [List.mem_append, not_or] at other
    rw [h'.elsewhere q other.2, h.elsewhere q other.1]

theorem of_subset (h : t.Touches places t') (same : ∀ q, q ∈ places ↔ q ∈ others) :
    t.Touches others t' where
  workingDirectory := h.workingDirectory
  free q member := h.free q ((same q).mpr member)
  elsewhere q other := h.elsewhere q (other ∘ (same q).mp)

end Touches

/-! ## What stays -/

/-- Every directory is still there, and so is every file at a spared place. -/
structure Keeps (t : FileTree) (spared : Place → Prop) (t' : FileTree) : Prop where
  workingDirectory : t'.workingDirectory = t.workingDirectory
  directory : ∀ place, t.entry? place = some .directory → t'.entry? place = some .directory
  file : ∀ place content, spared place → t.entry? place = some (.file content) →
    t'.entry? place = some (.file content)

namespace Keeps

variable {t t' t'' : FileTree} {spared spared' : Place → Prop}

theorem refl (t : FileTree) (spared : Place → Prop) : t.Keeps spared t :=
  ⟨rfl, fun _ stands => stands, fun _ _ _ stands => stands⟩

theorem trans (h : t.Keeps spared t') (h' : t'.Keeps spared t'') : t.Keeps spared t'' where
  workingDirectory := h'.workingDirectory.trans h.workingDirectory
  directory place stands := h'.directory place (h.directory place stands)
  file place content spares stands := h'.file place content spares (h.file place content spares stands)

theorem mono (h : t.Keeps spared t') (fewer : ∀ place, spared' place → spared place) :
    t.Keeps spared' t' :=
  { h with file := fun place content spares => h.file place content (fewer place spares) }

theorem of_touches {places : List Place} (h : t.Touches places t') : t.Keeps (· ∉ places) t' := by
  refine ⟨h.workingDirectory, ?_, ?_⟩
  · intro q stands
    rw [h.elsewhere q fun member => h.free q member stands, stands]
  · intro q content apart stands
    rw [h.elsewhere q apart, stands]

theorem set (t : FileTree) {place : Place} (free : t.entry? place ≠ some .directory)
    (entry : Entry) : t.Keeps (· ≠ place) (t.set place entry) :=
  (of_touches (.set t free entry)).mono fun _ apart => by simpa using apart

theorem remove (t : FileTree) (place : Place) (free : t.entry? place ≠ some .directory) :
    t.Keeps (· ≠ place) (t.remove place) :=
  (of_touches (.remove t free)).mono fun _ apart => by simpa using apart

/-- Where components led before, they lead now. -/
theorem descend (h : t.Keeps spared t') {start place : Place} {components : List Bytes}
    (reached : t.descend start components = .ok place) :
    t'.descend start components = .ok place := by
  induction components generalizing start with
  | nil => exact reached
  | cons component rest ih =>
      simp only [FileTree.descend, bind, Except.bind] at reached ⊢
      cases led : step start component with
      | error e => simp [led] at reached
      | ok next =>
          simp only [led] at reached ⊢
          rcases stands : t.entry? next with _ | _ | _
          · simp [stands] at reached
          · simp [stands] at reached
          · simp only [stands, h.directory next stands] at reached ⊢
            exact ih reached

theorem approach (h : t.Keeps spared t') {p : Path} {reached : Place × Option Bytes}
    (led : t.approach p = .ok reached) : t'.approach p = .ok reached := by
  rw [approach_eq_ok] at led ⊢
  rw [h.workingDirectory]
  exact ⟨led.1, h.descend led.2.1, led.2.2⟩

end Keeps

/-- Nothing is gone and no file is new: at most there are more directories. -/
structure Grows (t t' : FileTree) : Prop where
  workingDirectory : t'.workingDirectory = t.workingDirectory
  entry : ∀ place, t'.entry? place = t.entry? place ∨
    t.entry? place = none ∧ t'.entry? place = some .directory

namespace Grows

variable {t t' t'' : FileTree}

theorem refl (t : FileTree) : t.Grows t :=
  ⟨rfl, fun _ => .inl rfl⟩

theorem trans (h : t.Grows t') (h' : t'.Grows t'') : t.Grows t'' := by
  refine ⟨h'.workingDirectory.trans h.workingDirectory, ?_⟩
  intro place
  rcases h'.entry place with same' | ⟨absent, made⟩
  · rcases h.entry place with same | ⟨absent, made⟩
    · exact .inl (same'.trans same)
    · exact .inr ⟨absent, same'.trans made⟩
  · rcases h.entry place with same | ⟨-, made'⟩
    · exact .inr ⟨same.symm.trans absent, made⟩
    · simp [made'] at absent

theorem keeps (h : t.Grows t') (spared : Place → Prop) : t.Keeps spared t' := by
  have stays {place : Place} {entry : Entry} (stands : t.entry? place = some entry) :
      t'.entry? place = some entry := by
    rcases h.entry place with same | ⟨absent, -⟩
    · rw [same, stands]
    · simp [stands] at absent
  exact ⟨h.workingDirectory, fun _ => stays, fun _ _ _ => stays⟩

end Grows

/-! ## Directories -/

/-- A directory is made where the path leads, and nothing stood there. -/
theorem makeDirectory_cases {t t' : FileTree} {p : Path} (made : t.makeDirectory p = .ok t') :
    ∃ directory name, t.approach p = .ok (directory, some name) ∧
      step directory name = .ok (directory ++ [name]) ∧ t.entry? (directory ++ [name]) = none ∧
      t' = t.set (directory ++ [name]) .directory := by
  simp only [makeDirectory, bind, Except.bind] at made
  rcases led : t.approach p with e | ⟨directory, last⟩
  · simp [led] at made
  simp only [led] at made
  cases own : ownName? last with
  | none => simp [own] at made
  | some name =>
      simp only [own] at made
      cases stepped : step directory name with
      | error e => simp [stepped] at made
      | ok place =>
          simp only [stepped] at made
          cases stands : t.entry? place with
          | some entry => simp [stands] at made
          | none =>
              simp only [stands, pure, Except.pure, Except.ok.injEq] at made
              obtain ⟨rfl, rfl⟩ := step_of_own own stepped
              exact ⟨directory, name, rfl, stepped, stands, made.symm⟩

theorem grows_of_makeDirectory {t t' : FileTree} {p : Path} (made : t.makeDirectory p = .ok t') :
    t.Grows t' := by
  obtain ⟨directory, name, -, -, absent, rfl⟩ := makeDirectory_cases made
  refine ⟨rfl, fun q => ?_⟩
  by_cases same : q = directory ++ [name]
  · subst same
    exact .inr ⟨absent, t.entry?_set_self (by simp) .directory⟩
  · exact .inl (t.entry?_set_of_ne same .directory)

theorem makeLineage_grows (t : FileTree) (ps : List Path) : t.Grows (t.makeLineage ps).2 := by
  induction ps with
  | nil => exact .refl t
  | cons p holders ih =>
      unfold makeLineage
      cases made : t.makeDirectory p with
      | ok t' => exact grows_of_makeDirectory made
      | error e =>
          cases e with
          | notFound =>
              simp only
              rcases held : t.makeLineage holders with ⟨e | ⟨⟩, t'⟩
              · rw [held] at ih
                exact ih
              · rw [held] at ih
                simp only
                cases made' : t'.makeDirectory p with
                | error e => exact ih
                | ok t'' => exact ih.trans (grows_of_makeDirectory made')
          | _ => exact .refl t

theorem makeParent_grows (t : FileTree) (p : Path) (complain : Path → OsError → DeskError) :
    t.Grows (t.makeParent p complain).2 := by
  unfold makeParent makeDirectories
  cases p.parent? with
  | none => exact .refl t
  | some parent =>
      simp only
      split
      · exact .refl t
      · have grown := t.makeLineage_grows parent.lineage
        rcases made : t.makeLineage parent.lineage with ⟨e | ⟨⟩, t'⟩
        · rw [made] at grown
          exact grown
        · rw [made] at grown
          exact grown

/-! ## Files -/

section Files

variable {t t' : FileTree} {p : Path} {directory place : Place} {name content : Bytes}

theorem Leads.later {spared : Place → Prop} (h : t.Leads p directory name)
    (keeps : t.Keeps spared t') : t'.Leads p directory name :=
  { h with approached := keeps.approach h.approached }

theorem Keeps.find {spared : Place → Prop} (h : t.Keeps spared t') (spares : spared place)
    (found : t.find p = .ok (place, .file content)) : t'.find p = .ok (place, .file content) := by
  obtain ⟨directory, component, approached, stepped, stands, ends⟩ := approach_of_find found
  simp [FileTree.find, bind, Except.bind, h.approach approached, stepped,
    h.file place content spares stands, ends, pure, Except.pure]

theorem writable_cases (h : t.writable p = .ok place) :
    ∃ directory name, t.Leads p directory name ∧ place = directory ++ [name] ∧
      t.entry? place ≠ some .directory := by
  simp only [writable, bind, Except.bind] at h
  rcases approached : t.approach p with e | ⟨directory, last⟩
  · simp [approached] at h
  simp only [approached] at h
  cases own : ownName? last with
  | none => simp [own] at h
  | some name =>
      cases ends : p.endsInSlash with
      | true => simp [own, ends] at h
      | false =>
          simp only [own, ends, Bool.false_eq_true, if_false] at h
          cases stepped : step directory name with
          | error e => simp [stepped] at h
          | ok next =>
              simp only [stepped] at h
              have free : t.entry? next ≠ some .directory := by
                intro stands
                simp [stands] at h
              obtain rfl : next = place := by
                rcases stands : t.entry? next with _ | held | _
                · simpa [stands, pure, Except.pure] using h
                · simpa [stands, pure, Except.pure] using h
                · exact (free stands).elim
              obtain ⟨leads, same⟩ := Leads.of_own approached own stepped ends
              exact ⟨directory, name, leads, same, free⟩

/-- A file is written where its path leads, and no directory stood there. -/
theorem write_cases (written : t.write p content = .ok t') :
    ∃ directory name, t.Leads p directory name ∧
      t.entry? (directory ++ [name]) ≠ some .directory ∧
      t' = t.set (directory ++ [name]) (.file content) := by
  simp only [write, bind, Except.bind] at written
  cases opened : t.writable p with
  | error e => simp [opened] at written
  | ok place =>
      simp only [opened, pure, Except.pure, Except.ok.injEq] at written
      obtain ⟨directory, name, leads, rfl, free⟩ := writable_cases opened
      exact ⟨directory, name, leads, free, written.symm⟩

/-- A file is moved from where it was found to where the target leads. -/
theorem rename_cases {source : Path} (moved : t.rename source p = .ok t') :
    ∃ old content directory name, t.find source = .ok (old, .file content) ∧
      t.Leads p directory name ∧ t.entry? (directory ++ [name]) ≠ some .directory ∧
      t' = (t.remove old).set (directory ++ [name]) (.file content) := by
  simp only [rename, bind, Except.bind] at moved
  rcases led : t.approach source with e | ⟨start, first⟩
  · simp [led] at moved
  rcases approached : t.approach p with e | ⟨directory, last⟩
  · simp [led, approached] at moved
  simp only [led, approached] at moved
  cases former : ownName? first with
  | none => simp [former] at moved
  | some oldName =>
      cases own : ownName? last with
      | none => simp [former, own] at moved
      | some name =>
          simp only [former, own] at moved
          rcases found : t.find source with e | ⟨old, content | _⟩
          · simp [found] at moved
          · simp only [found] at moved
            cases stepped : step directory name with
            | error e => simp [stepped] at moved
            | ok place =>
                simp only [stepped] at moved
                cases ends : p.endsInSlash with
                | true => simp [ends] at moved
                | false =>
                    cases stands : t.isDirectoryAt place with
                    | true => simp [ends, stands] at moved
                    | false =>
                        simp only [ends, stands, pure, Except.pure, Bool.false_eq_true, if_false,
                          Except.ok.injEq] at moved
                        obtain ⟨leads, rfl⟩ := Leads.of_own approached own stepped ends
                        have free : t.entry? (directory ++ [name]) ≠ some .directory := by
                          intro same
                          simp [isDirectoryAt, same] at stands
                        exact ⟨old, content, directory, name, rfl, leads, free, moved.symm⟩
          · simp [found] at moved

end Files

end RemoteDesk.FileTree
