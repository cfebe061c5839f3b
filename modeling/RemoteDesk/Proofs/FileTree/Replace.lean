import RemoteDesk.Proofs.FileTree.Changes
import RemoteDesk.Proofs.Path.Names
import RemoteDesk.Proofs.Text.Utf8

/-! # What replacing a file keeps

A file is replaced by way of a hidden sibling. Whatever comes of it, every directory and every file
that is not hidden is kept, but for the target itself, and the target changes only if all of it
succeeds; then it holds the new content.
-/

namespace RemoteDesk.FileTree

/-- The last name that leads to the place begins with a dot. -/
def Hidden (place : Place) : Prop :=
  ∃ name, place.getLast? = some (Path.dot :: name)

theorem hidden_append_iff {directory : Place} {name : Bytes} :
    Hidden (directory ++ [name]) ↔ name.head? = some Path.dot := by
  unfold Hidden
  rw [List.getLast?_concat]
  cases name with
  | nil => simp
  | cons b rest => simp

/-- What the sibling of a file is called. -/
def temporaryName (name : Bytes) : Bytes :=
  Path.dot :: name ++ Utf8.encode ".tmp"

theorem slash_not_mem_temporaryName {name : Bytes} (single : Path.slash ∉ name) :
    Path.slash ∉ temporaryName name := by
  have suffix : Path.slash ∉ Utf8.encode ".tmp" := by decide
  have dots : Path.slash ≠ Path.dot := by decide
  simp [temporaryName, single, suffix, dots]

/-- The sibling stands beside what the path names. -/
theorem temporarySibling?_eq_some {p sibling : Path} (has : temporarySibling? p = some sibling) :
    ∃ name, p.fileName? = some name ∧ (Utf8.decode? name).isSome ∧
      sibling = (p.parent?.getD ⟨[Path.dot]⟩).join ⟨temporaryName name⟩ := by
  unfold temporarySibling? at has
  cases named : p.fileName? with
  | none => simp [named] at has
  | some name =>
      simp only [named, Option.ite_none_right_eq_some, Option.some.injEq] at has
      exact ⟨name, rfl, has.1, has.2.symm⟩

theorem hidden_of_sibling {p sibling : Path} {t : FileTree} {directory : Place} {name : Bytes}
    (has : temporarySibling? p = some sibling) (leads : t.Leads sibling directory name) :
    Hidden (directory ++ [name]) := by
  obtain ⟨target, named, -, rfl⟩ := temporarySibling?_eq_some has
  have single := slash_not_mem_temporaryName (Path.slash_not_mem_fileName named)
  have last := leads.last
  rw [Path.components_join single (List.cons_ne_nil _ _), List.getLast?_concat] at last
  rw [hidden_append_iff, ← Option.some.inj last]
  rfl

section Through

variable {t t' : FileTree} {sibling p : Path} {content : Bytes}

/-- What was written to the sibling is found there, and can be taken away again. -/
theorem aside_of_write (put : t.write sibling content = .ok t') :
    ∃ start temporary, t.Leads sibling start temporary ∧ t.Touches [start ++ [temporary]] t' ∧
      t'.find sibling = .ok (start ++ [temporary], .file content) ∧
      t'.Touches [start ++ [temporary]] (t'.remove (start ++ [temporary])) := by
  obtain ⟨start, temporary, aside, free, rfl⟩ := write_cases put
  have written := Touches.set t free (.file content)
  have stands : entry? (t.set (start ++ [temporary]) (.file content)) (start ++ [temporary]) =
      some (.file content) := t.entry?_set_self (by simp) _
  exact ⟨start, temporary, aside, written, (aside.later (.of_touches written)).find stands,
    .remove _ (by simp [stands])⟩

/-- What is moved is what was put at the sibling before, and the sibling is gone. -/
theorem replaceThrough_ok (h : t.replaceThrough sibling p content = (.ok (), t')) :
    ∃ start temporary directory name, t.Leads sibling start temporary ∧
      t'.Leads p directory name ∧ t.Touches [start ++ [temporary], directory ++ [name]] t' ∧
      t'.entry? (directory ++ [name]) = some (.file content) ∧
      (start ++ [temporary] ≠ directory ++ [name] → t'.entry? (start ++ [temporary]) = none) := by
  unfold replaceThrough at h
  cases put : t.write sibling content with
  | error e => simp [put] at h
  | ok written =>
      simp only [put] at h
      cases moved : written.rename sibling p with
      | error e => simp [moved] at h
      | ok replaced =>
          simp only [moved, Prod.mk.injEq, true_and] at h
          subst h
          obtain ⟨start, temporary, aside, touched, stood, taken⟩ := aside_of_write put
          obtain ⟨old, text, directory, name, found, leads, free, rfl⟩ := rename_cases moved
          obtain ⟨rfl, rfl⟩ : old = start ++ [temporary] ∧ text = content := by
            simpa [stood, eq_comm] using found
          have free' : entry? (written.remove (start ++ [temporary])) (directory ++ [name]) ≠
              some .directory := by
            by_cases same : directory ++ [name] = start ++ [temporary]
            · rw [same, entry?_remove_self _ (by simp)]
              simp
            · rwa [entry?_remove_of_ne _ same]
          have home := Touches.set _ free' (.file text)
          refine ⟨start, temporary, directory, name, aside,
            (leads.later (.of_touches taken)).later (.of_touches home),
            ((touched.trans taken).trans home).of_subset (by simp), entry?_set_self _ (by simp) _, ?_⟩
          intro apart
          rw [entry?_set_of_ne _ apart, entry?_remove_self _ (by simp)]

theorem replaceThrough_error {e : DeskError}
    (h : t.replaceThrough sibling p content = (.error e, t')) :
    t' = t ∨ ∃ start temporary, t.Leads sibling start temporary ∧
      t.Touches [start ++ [temporary]] t' ∧ t'.entry? (start ++ [temporary]) = none := by
  unfold replaceThrough at h
  cases put : t.write sibling content with
  | error cause =>
      simp only [put, Prod.mk.injEq] at h
      exact .inl h.2.symm
  | ok written =>
      obtain ⟨start, temporary, aside, touched, stood, taken⟩ := aside_of_write put
      simp only [put] at h
      cases moved : written.rename sibling p with
      | ok replaced => simp [moved] at h
      | error cause =>
          simp only [moved, Prod.mk.injEq, removeFile, stood] at h
          obtain ⟨-, rfl⟩ := h
          exact .inr ⟨start, temporary, aside, (touched.trans taken).of_subset (by simp),
            entry?_remove_self _ (by simp)⟩

end Through

section Replace

variable {t t' : FileTree} {p : Path} {content : Bytes}

/-- Once the directory of a file is made, replacing it is refused or goes on with its sibling. -/
theorem replace_cases {answer : Except DeskError Unit} (h : t.replace p content = (answer, t')) :
    (∃ e, answer = .error e) ∧ t' = (t.makeParent p .parentDirectory).2 ∨
    ∃ sibling, temporarySibling? p = some sibling ∧
      (t.makeParent p .parentDirectory).2.replaceThrough sibling p content = (answer, t') := by
  unfold replace at h
  rcases held : t.makeParent p .parentDirectory with ⟨e | ⟨⟩, t₁⟩
  · simp only [held, Prod.mk.injEq] at h
    exact .inl ⟨⟨e, h.1.symm⟩, h.2.symm⟩
  · cases has : temporarySibling? p with
    | none =>
        simp only [held, has, Prod.mk.injEq] at h
        exact .inl ⟨⟨_, h.1.symm⟩, h.2.symm⟩
    | some sibling =>
        simp only [held, has] at h
        exact .inr ⟨sibling, rfl, h⟩

/-- A replaced file holds the new content, and every other file that is not hidden is kept. -/
theorem replace_ok (h : t.replace p content = (.ok (), t')) :
    ∃ directory name, t'.Leads p directory name ∧
      t'.entry? (directory ++ [name]) = some (.file content) ∧
      t.Keeps (fun q => ¬ Hidden q ∧ q ≠ directory ++ [name]) t' := by
  have grown := t.makeParent_grows p .parentDirectory
  obtain ⟨⟨e, refused⟩, -⟩ | ⟨sibling, has, through⟩ := replace_cases h
  · cases refused
  obtain ⟨start, temporary, directory, name, away, leads, touches, stands, -⟩ :=
    replaceThrough_ok through
  have hidden := hidden_of_sibling has away
  refine ⟨directory, name, leads, stands,
    (grown.keeps _).trans ((Keeps.of_touches touches).mono ?_)⟩
  rintro q ⟨plain, other⟩ member
  simp only [List.mem_cons, List.not_mem_nil, or_false] at member
  rcases member with rfl | rfl
  · exact plain hidden
  · exact other rfl

theorem read_of_replaced (h : t.replace p content = (.ok (), t')) : t'.read p = .ok content := by
  obtain ⟨directory, name, leads, stands, -⟩ := replace_ok h
  rw [FileTree.read, leads.find stands]

/-- A file that was replaced by a text is read as that text. -/
theorem readText_of_replaced {text : String} (h : t.replace p (Utf8.encode text) = (.ok (), t')) :
    t'.readText p = .ok text := by
  simp only [readText, read_of_replaced h, bind, Except.bind, Utf8.decode?_encode]
  rfl

/-- Where a file could not be replaced, every file that is not hidden is kept. -/
theorem replace_error {e : DeskError} (h : t.replace p content = (.error e, t')) :
    t.Keeps (¬ Hidden ·) t' := by
  have grown := t.makeParent_grows p .parentDirectory
  obtain ⟨-, rfl⟩ | ⟨sibling, has, through⟩ := replace_cases h
  · exact grown.keeps _
  rcases replaceThrough_error through with rfl | ⟨start, temporary, away, touches, -⟩
  · exact grown.keeps _
  · have hidden := hidden_of_sibling has away
    refine (grown.keeps _).trans ((Keeps.of_touches touches).mono ?_)
    intro q plain member
    obtain rfl := List.mem_singleton.mp member
    exact plain hidden

end Replace

end RemoteDesk.FileTree
