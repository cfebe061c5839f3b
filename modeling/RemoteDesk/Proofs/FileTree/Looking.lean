import RemoteDesk.FileTree
import RemoteDesk.Proofs.Path.Names

/-! # Where paths lead

A path is followed through directories up to its last component. A file that was found by its path
stands where that component leads, and a path that was joined from a directory and a name leads to
that name in the directory.
-/

namespace RemoteDesk

theorem ok_of_toOption {ε α : Type} {x : Except ε α} {a : α} (h : x.toOption = some a) :
    x = .ok a := by
  cases x with
  | error e => cases h
  | ok b => exact congrArg Except.ok (Option.some.inj h)

namespace FileTree

theorem approach_eq_ok {t : FileTree} {p : Path} {reached : Place × Option Bytes} :
    t.approach p = .ok reached ↔
      checkSpelling p = .ok () ∧
      t.descend (if p.isAbsolute then [] else t.workingDirectory) p.components.dropLast =
        .ok reached.1 ∧
      p.components.getLast? = reached.2 := by
  simp only [approach, bind, Except.bind]
  cases spelled : checkSpelling p with
  | error e => simp
  | ok x =>
      simp only [true_and]
      cases t.descend (if p.isAbsolute then [] else t.workingDirectory) p.components.dropLast with
      | error e => simp
      | ok directory => simp [pure, Except.pure, Prod.ext_iff]

theorem descend_append (t : FileTree) (start : Place) (first others : List Bytes) :
    t.descend start (first ++ others) = t.descend start first >>= (t.descend · others) := by
  induction first generalizing start with
  | nil => rfl
  | cons component rest ih =>
      simp only [List.cons_append, descend, bind, Except.bind] at ih ⊢
      cases step start component with
      | error e => rfl
      | ok next =>
          simp only
          rcases t.entry? next with _ | _ | _
          · rfl
          · rfl
          · exact ih next

/-- Components that are all directories lead where the path leads. -/
theorem find_of_descend {t : FileTree} {p : Path} {place : Place}
    (spelled : checkSpelling p = .ok ())
    (reached : t.descend (if p.isAbsolute then [] else t.workingDirectory) p.components =
      .ok place) :
    t.find p = .ok (place, .directory) := by
  rcases List.eq_nil_or_concat p.components with bare | ⟨others, last, same⟩
  · have led : t.approach p = .ok (place, none) := by
      rw [approach_eq_ok]
      simpa [bare, spelled] using reached
    simp [find, led, bind, Except.bind, pure, Except.pure]
  · rw [List.concat_eq_append] at same
    rw [same, descend_append] at reached
    simp only [bind, Except.bind] at reached
    cases descended : t.descend (if p.isAbsolute then [] else t.workingDirectory) others with
    | error e => simp [descended] at reached
    | ok directory =>
        have led : t.approach p = .ok (directory, some last) := by
          rw [approach_eq_ok]
          simpa [same, spelled] using descended
        simp only [descended, descend, bind, Except.bind] at reached
        cases stepped : step directory last with
        | error e => simp [stepped] at reached
        | ok next =>
            simp only [stepped] at reached
            rcases stands : t.entry? next with _ | _ | _
            · simp [stands] at reached
            · simp [stands] at reached
            · simp only [stands, Except.ok.injEq] at reached
              subst reached
              simp [find, led, stepped, stands, bind, Except.bind, pure, Except.pure]

/-- The path leads to a directory, and its last component names a file of that directory, which
    stands there or may be put there. -/
structure Leads (t : FileTree) (p : Path) (directory : Place) (name : Bytes) : Prop where
  approached : t.approach p = .ok (directory, some name)
  stepped : step directory name = .ok (directory ++ [name])
  open_ : p.endsInSlash = false

theorem step_of_own {last : Option Bytes} {directory place : Place} {name : Bytes}
    (own : ownName? last = some name) (stepped : step directory name = .ok place) :
    last = some name ∧ place = directory ++ [name] := by
  cases last with
  | none => simp [ownName?] at own
  | some component =>
      simp only [ownName?, Option.ite_none_left_eq_some, Option.some.injEq, not_or] at own
      obtain ⟨⟨single, double⟩, rfl⟩ := own
      simp only [step, if_neg single, if_neg double] at stepped
      split at stepped
      · cases stepped
      · exact ⟨rfl, (Except.ok.inj stepped).symm⟩

section Leads

variable {t t' : FileTree} {p : Path} {directory place : Place} {name content : Bytes}

theorem Leads.of_own {last : Option Bytes} (approached : t.approach p = .ok (directory, last))
    (own : ownName? last = some name) (stepped : step directory name = .ok place)
    (open_ : p.endsInSlash = false) : t.Leads p directory name ∧ place = directory ++ [name] := by
  obtain ⟨rfl, rfl⟩ := step_of_own own stepped
  exact ⟨⟨approached, stepped, open_⟩, rfl⟩

theorem Leads.last (h : t.Leads p directory name) : p.components.getLast? = some name :=
  (approach_eq_ok.mp h.approached).2.2

theorem Leads.find (h : t.Leads p directory name)
    (stands : t.entry? (directory ++ [name]) = some (.file content)) :
    t.find p = .ok (directory ++ [name], .file content) := by
  simp [FileTree.find, bind, Except.bind, h.approached, h.stepped, stands, h.open_, pure,
    Except.pure]

/-- A file that was found is where the last component leads. -/
theorem approach_of_find (found : t.find p = .ok (place, .file content)) :
    ∃ directory component, t.approach p = .ok (directory, some component) ∧
      step directory component = .ok place ∧ t.entry? place = some (.file content) ∧
      p.endsInSlash = false := by
  simp only [FileTree.find, bind, Except.bind] at found
  rcases led : t.approach p with e | ⟨directory, _ | component⟩
  · simp [led] at found
  · simp [led, pure, Except.pure] at found
  · simp only [led] at found
    cases stepped : step directory component with
    | error e => simp [stepped] at found
    | ok next =>
        simp only [stepped] at found
        rcases stands : t.entry? next with _ | held | _
        · simp [stands] at found
        · cases ends : p.endsInSlash with
          | true => simp [stands, ends] at found
          | false =>
              simp only [stands, ends, pure, Except.pure, Bool.false_eq_true, if_false,
                Except.ok.injEq, Prod.mk.injEq, Entry.file.injEq] at found
              obtain ⟨rfl, rfl⟩ := found
              exact ⟨directory, component, rfl, stepped, stands, rfl⟩
        · simp [stands, pure, Except.pure] at found

end Leads

/-! ## Directories by their names -/

/-- The path names the directory at the place; the empty path names the working directory. -/
def Locates (t : FileTree) (p : Path) (place : Place) : Prop :=
  (p.bytes = [] ∧ place = t.workingDirectory) ∨ t.find p = .ok (place, .directory)

section Child

variable {t : FileTree} {base : Path} {place : Place} {name content : Bytes}

theorem checkSpelling_eq_ok {p : Path} :
    checkSpelling p = .ok () ↔ 0 ∉ p.bytes ∧ p.bytes ≠ [] ∧ p.bytes.length < pathLimit := by
  unfold checkSpelling
  split
  · simp [*]
  · split
    · simp [*]
    · split
      · simp [*]
      · simp [*, Nat.lt_of_not_le]

/-- A file that was found by the path of a name in a directory lies in that directory under its
    name. -/
theorem locates_of_find (single : Path.slash ∉ name) (own : ownName? (some name) = some name)
    (named : name ≠ []) (found : t.find (base.join ⟨name⟩) = .ok (place, .file content)) :
    ∃ directory, t.Locates base directory ∧ place = directory ++ [name] := by
  obtain ⟨directory, component, led, stepped, -, -⟩ := approach_of_find found
  obtain ⟨spelled, descended, last⟩ := approach_eq_ok.mp led
  rw [Path.components_join single named] at descended last
  rw [List.dropLast_concat, Path.isAbsolute_join single named] at descended
  rw [List.getLast?_concat, Option.some.injEq] at last
  subst last
  refine ⟨directory, ?_, (step_of_own own stepped).2⟩
  by_cases nothing : base.bytes = []
  · obtain rfl : base = ⟨[]⟩ := congrArg Path.mk nothing
    exact .inl ⟨rfl, by simpa [Path.components, Path.stretches, Path.isAbsolute, descend] using
      descended.symm⟩
  · have before : checkSpelling base = .ok () := by
      obtain ⟨more, bytes⟩ := Path.prefix_join base single named
      rw [checkSpelling_eq_ok, ← bytes] at spelled
      obtain ⟨unbroken, -, short⟩ := spelled
      rw [checkSpelling_eq_ok]
      simp only [List.mem_append, not_or, List.length_append] at unbroken short
      exact ⟨unbroken.1, nothing, by omega⟩
    exact .inr (find_of_descend before descended)

end Child

end FileTree

end RemoteDesk
