import RemoteDesk.Audit.Log
import RemoteDesk.Proofs.Text.Utf8

/-! # File trees without their texts

An outline of a tree says what stands where and which files are texts, but not what the texts say.
No operation on trees looks further: carried out on the outline, it has the same outcome and leads to
the outline of what it leads to. A text that is added to a file does not change whether the file is
a text.
-/

namespace RemoteDesk

/-- Results that look the same are the same failure, or answers that look the same. -/
theorem cases_of_map_eq {ε α β : Type} {f : α → β} {x y : Except ε α} (same : x.map f = y.map f) :
    (∃ e, x = .error e ∧ y = .error e) ∨ ∃ a b, x = .ok a ∧ y = .ok b ∧ f a = f b := by
  cases x <;> cases y <;> simp_all [Except.map]

/-- All that an outline keeps of the content of a file. -/
def gist (content : Bytes) : Bytes :=
  if (Utf8.decode? content).isSome then [] else [0xff]

theorem gist_append_encode (content : Bytes) (s : String) :
    gist (content ++ Utf8.encode s) = gist content := by
  unfold gist
  rw [Utf8.isSome_decode?_append_encode]

theorem gist_encode (s : String) : gist (Utf8.encode s) = [] :=
  gist_append_encode [] s

theorem decode?_gist (content : Bytes) :
    Utf8.decode? (gist content) = (Utf8.decode? content).map fun _ => "" := by
  unfold gist
  cases Utf8.decode? content <;> rfl

def Entry.outline : Entry → Entry
  | .file content => .file (gist content)
  | .directory => .directory

namespace FileTree

/-- The tree with every text emptied. -/
def outline (t : FileTree) : FileTree :=
  { t with entries := t.entries.map fun (place, entry) => (place, entry.outline) }

variable (t : FileTree) (p : Path)

/-! ## Looking -/

theorem entry?_outline (place : Place) :
    t.outline.entry? place = (t.entry? place).map Entry.outline := by
  unfold entry? outline
  split
  · rfl
  · induction t.entries with
    | nil => rfl
    | cons first rest ih =>
        obtain ⟨q, entry⟩ := first
        rw [List.map_cons, List.lookup_cons, List.lookup_cons]
        cases place == q with
        | true => rfl
        | false => exact ih

theorem isDirectoryAt_outline (place : Place) :
    t.outline.isDirectoryAt place = t.isDirectoryAt place := by
  unfold isDirectoryAt
  rw [entry?_outline]
  rcases t.entry? place with _ | _ | _ <;> rfl

theorem descend_outline (directory : Place) (components : List Bytes) :
    t.outline.descend directory components = t.descend directory components := by
  induction components generalizing directory with
  | nil => rfl
  | cons component rest ih =>
      simp only [descend, bind, Except.bind, entry?_outline]
      cases step directory component with
      | error e => rfl
      | ok next =>
          simp only
          rcases t.entry? next with _ | _ | _
          · rfl
          · rfl
          · exact ih next

theorem approach_outline : t.outline.approach p = t.approach p := by
  simp only [approach, descend_outline]
  rfl

theorem find_outline : t.outline.find p = (t.find p).map (Prod.map id Entry.outline) := by
  simp only [find, approach_outline, bind, Except.bind, entry?_outline]
  rcases t.approach p with e | ⟨directory, _ | component⟩
  · rfl
  · rfl
  · simp only
    cases step directory component with
    | error e => rfl
    | ok place =>
        simp only
        rcases t.entry? place with _ | _ | _
        · rfl
        · simp only [Option.map_some, Entry.outline]
          split <;> rfl
        · rfl

theorem pathExists_outline : t.outline.pathExists p = t.pathExists p := by
  unfold pathExists
  rw [find_outline]
  cases t.find p <;> rfl

theorem isFile_outline : t.outline.isFile p = t.isFile p := by
  unfold isFile
  rw [find_outline]
  rcases t.find p with _ | ⟨_, _ | _⟩ <;> rfl

theorem isDirectory_outline : t.outline.isDirectory p = t.isDirectory p := by
  unfold isDirectory
  rw [find_outline]
  rcases t.find p with _ | ⟨_, _ | _⟩ <;> rfl

theorem list_outline : t.outline.list p = t.list p := by
  have names (directory : Place) : t.outline.namesAt directory = t.namesAt directory := by
    unfold namesAt outline
    rw [List.filterMap_map]
    rfl
  unfold list
  rw [find_outline]
  rcases t.find p with _ | ⟨_, _ | _⟩
  · rfl
  · rfl
  · exact congrArg Except.ok (names _)

theorem readText_outline : t.outline.readText p = (t.readText p).map fun _ => "" := by
  unfold readText read
  rw [find_outline]
  rcases t.find p with _ | ⟨_, content | _⟩
  · rfl
  · simp only [Except.map, Prod.map, Entry.outline, bind, Except.bind, decode?_gist]
    cases Utf8.decode? content <;> rfl
  · rfl

/-! ## Changing -/

theorem outline_set (place : Place) (entry : Entry) :
    (t.set place entry).outline = t.outline.set place entry.outline := by
  unfold set outline
  simp only [mk.injEq, and_true]
  induction t.entries with
  | nil => rfl
  | cons first rest ih =>
      obtain ⟨q, old⟩ := first
      simp only [set.put, List.map_cons]
      split
      · rfl
      · rw [List.map_cons, ih]

theorem outline_remove (place : Place) : (t.remove place).outline = t.outline.remove place := by
  unfold remove outline
  simp only [List.filter_map]
  rfl

theorem makeDirectory_outline :
    t.outline.makeDirectory p = (t.makeDirectory p).map outline := by
  simp only [makeDirectory, approach_outline, bind, Except.bind, entry?_outline]
  rcases t.approach p with e | ⟨directory, last⟩
  · rfl
  · simp only
    cases ownName? last with
    | none => rfl
    | some name =>
        simp only
        cases step directory name with
        | error e => rfl
        | ok place =>
            simp only
            cases t.entry? place with
            | some old => rfl
            | none => exact congrArg Except.ok (t.outline_set place .directory).symm

theorem makeLineage_outline (ps : List Path) :
    t.outline.makeLineage ps = Prod.map id outline (t.makeLineage ps) := by
  induction ps with
  | nil => rfl
  | cons p holders ih =>
      unfold makeLineage
      rw [makeDirectory_outline, isDirectory_outline]
      rcases t.makeDirectory p with e | made
      · cases e with
        | notFound =>
            simp only [Except.map, ih]
            rcases t.makeLineage holders with ⟨e | ⟨⟩, t'⟩
            · rfl
            · simp only [Prod.map, id_eq, makeDirectory_outline, isDirectory_outline]
              cases t'.makeDirectory p <;> rfl
        | _ => rfl
      · rfl

theorem writable_outline : t.outline.writable p = t.writable p := by
  simp only [writable, approach_outline, bind, Except.bind, entry?_outline]
  rcases t.approach p with e | ⟨directory, last⟩
  · rfl
  · simp only
    cases ownName? last with
    | none => rfl
    | some name =>
        simp only
        split
        · rfl
        · cases step directory name with
          | error e => rfl
          | ok place =>
              simp only
              rcases t.entry? place with _ | _ | _ <;> rfl

theorem write_outline (content : Bytes) :
    t.outline.write p (gist content) = (t.write p content).map outline := by
  simp only [write, writable_outline, bind, Except.bind]
  cases t.writable p with
  | error e => rfl
  | ok place => exact congrArg Except.ok (t.outline_set place (.file content)).symm

theorem append_outline (s : String) :
    t.outline.append p [] = (t.append p (Utf8.encode s)).map outline := by
  simp only [append, writable_outline, bind, Except.bind, entry?_outline]
  cases t.writable p with
  | error e => rfl
  | ok place =>
      simp only
      rcases t.entry? place with _ | content | _
      · exact congrArg Except.ok (by rw [outline_set, Entry.outline, gist_encode])
      · exact congrArg Except.ok
          (by rw [outline_set, Entry.outline, gist_append_encode, List.append_nil])
      · exact congrArg Except.ok (by rw [outline_set, Entry.outline, gist_encode])

theorem rename_outline (source target : Path) :
    t.outline.rename source target = (t.rename source target).map outline := by
  simp only [rename, approach_outline, find_outline, isDirectoryAt_outline, bind, Except.bind]
  rcases t.approach source with e | ⟨start, last⟩
  · rfl
  rcases t.approach target with e | ⟨directory, newLast⟩
  · rfl
  simp only
  cases ownName? last with
  | none => rfl
  | some old =>
      cases ownName? newLast with
      | none => rfl
      | some name =>
          simp only
          rcases t.find source with e | ⟨place, content | _⟩
          · rfl
          · simp only [Except.map, Prod.map, Entry.outline]
            cases step directory name with
            | error e => rfl
            | ok next =>
                simp only
                split
                · rfl
                · split
                  · rfl
                  · refine congrArg Except.ok ?_
                    rw [outline_set, outline_remove]
                    rfl
          · rfl

theorem removeFile_outline : t.outline.removeFile p = (t.removeFile p).outline := by
  unfold removeFile
  rw [find_outline]
  rcases t.find p with _ | ⟨_, _ | _⟩
  · rfl
  · exact (t.outline_remove _).symm
  · rfl

theorem makeParent_outline (complain : Path → OsError → DeskError) :
    t.outline.makeParent p complain = Prod.map id outline (t.makeParent p complain) := by
  unfold makeParent makeDirectories
  cases p.parent? with
  | none => rfl
  | some parent =>
      simp only [pathExists_outline, makeLineage_outline]
      split
      · rfl
      · rcases t.makeLineage parent.lineage with ⟨e | ⟨⟩, t'⟩ <;> rfl

theorem replaceThrough_outline (sibling : Path) (content : Bytes) :
    t.outline.replaceThrough sibling p (gist content) =
      Prod.map id outline (t.replaceThrough sibling p content) := by
  unfold replaceThrough
  rw [write_outline]
  cases t.write sibling content with
  | error e => rfl
  | ok written =>
      simp only [Except.map, rename_outline, removeFile_outline]
      cases written.rename sibling p <;> rfl

theorem replace_outline (content : Bytes) :
    t.outline.replace p (gist content) = Prod.map id outline (t.replace p content) := by
  unfold replace
  rw [makeParent_outline]
  rcases t.makeParent p .parentDirectory with ⟨e | ⟨⟩, t'⟩
  · rfl
  · simp only [Prod.map, id]
    cases temporarySibling? p with
    | none => rfl
    | some sibling => exact t'.replaceThrough_outline p sibling content

end FileTree

/-- Whether a log takes an event, and what that does to files, does not depend on the event. -/
theorem Audit.append_of_outline {t t' : FileTree} (same : t'.outline = t.outline) (path : Path)
    (e e' : Event) :
    Prod.map id FileTree.outline (append t' path e') =
      Prod.map id FileTree.outline (append t path e) := by
  have parents := t'.makeParent_outline path .eventsDirectory
  rw [same, FileTree.makeParent_outline] at parents
  unfold append
  generalize t.makeParent path .eventsDirectory = held at parents ⊢
  generalize t'.makeParent path .eventsDirectory = held' at parents ⊢
  obtain ⟨made, s⟩ := held
  obtain ⟨made', s'⟩ := held'
  obtain ⟨rfl, trees⟩ : made = made' ∧ s.outline = s'.outline := Prod.mk.inj parents
  cases made with
  | error cause => exact Prod.ext rfl trees.symm
  | ok done =>
      have written := s'.append_outline path (e'.line ++ "\n")
      rw [← trees, FileTree.append_outline s path (e.line ++ "\n")] at written
      simp only [Event.bytes]
      rcases cases_of_map_eq written with ⟨cause, first, second⟩ | ⟨u, u', first, second, same⟩ <;>
        rw [first, second]
      · exact Prod.ext rfl trees.symm
      · exact Prod.ext rfl same.symm

/-- A log that takes one event takes every event. -/
theorem Audit.append_all {t : FileTree} {path : Path} {e : Event}
    (taken : (append t path e).1 = .ok ()) (e' : Event) : (append t path e').1 = .ok () := by
  have same := congrArg (·.1) (append_of_outline (t := t) rfl path e e')
  exact same.trans taken

end RemoteDesk
