import Mathlib.Data.List.Sort
import RemoteDesk.Proofs.Registry

/-! # How far a directory is loaded

Whether a file can be loaded depends on the file alone, never on what waits in the registry. So a
row of files is loaded up to the first that cannot be, and what has been loaded by then is put under
its ids in order. The files of a directory come in the order of their names, which is a linear order,
so those before a file in the row are those whose names sort strictly before its name.
-/

namespace RemoteDesk.Registry

/-- The registry with fragments put under their ids, one after another. -/
def fill (r : Registry) (fragments : Catalog) : Registry :=
  ⟨fragments.foldl (fun c f => c.put f.1 f.2) r.subtasks⟩

/-- A file that can be loaded: its stem is a function name, and it holds a text. -/
structure IsFragment (t : FileTree) (path : Path) (f : String × String) : Prop where
  named : (path.fileName?.map Path.stem).bind Utf8.decode? = some f.1
  valid : Script.isSubtaskId f.1
  text : t.readText path = .ok f.2

variable {t : FileTree} {path : Path}

theorem loadStem_of_fragment {f : String × String} (h : IsFragment t path f) (r : Registry) :
    r.loadStem t path = .ok (f.1, r.fill [f]) := by
  simp only [loadStem, h.named, loadFile, h.text, insert, if_pos h.valid]
  rfl

/-- A file is a fragment, or nothing loads it. -/
theorem fragment_or_error (t : FileTree) (path : Path) :
    (∃ f, IsFragment t path f) ∨ ∃ e, ∀ r : Registry, r.loadStem t path = .error e := by
  cases named : (path.fileName?.map Path.stem).bind Utf8.decode? with
  | none => exact .inr ⟨_, fun r => by simp only [loadStem, named]; rfl⟩
  | some id =>
      cases text : t.readText path with
      | error e => exact .inr ⟨_, fun r => by simp only [loadStem, named, loadFile, text]; rfl⟩
      | ok fragment =>
          cases valid : Script.isSubtaskId id with
          | true => exact .inl ⟨(id, fragment), named, valid, text⟩
          | false =>
              refine .inr ⟨.invalidSubtaskId id, fun r => ?_⟩
              simp [loadStem, named, loadFile, text, insert, valid]

theorem fill_cons (r : Registry) (f : String × String) (later : Catalog) :
    r.fill (f :: later) = (r.fill [f]).fill later :=
  rfl

/-- A row of files is loaded as a whole, or up to the first that cannot be loaded. -/
theorem loadAll_cases (r : Registry) (t : FileTree) (paths : List Path) :
    (∃ fragments, List.Forall₂ (IsFragment t) paths fragments ∧
      r.loadAll t paths = (.ok (fragments.map (·.1)), r.fill fragments)) ∨
    (∃ before path after e fragments, paths = before ++ path :: after ∧
      List.Forall₂ (IsFragment t) before fragments ∧ path ∉ before ∧
      (∀ r' : Registry, r'.loadStem t path = .error e) ∧
      r.loadAll t paths = (.error e, r.fill fragments)) := by
  induction paths generalizing r with
  | nil => exact .inl ⟨[], .nil, rfl⟩
  | cons path others ih =>
      rcases fragment_or_error t path with ⟨f, fragment⟩ | ⟨e, fails⟩
      · have first := loadStem_of_fragment fragment r
        rcases ih (r.fill [f]) with
          ⟨fragments, all, loaded⟩ |
          ⟨before, bad, after, e, fragments, rfl, all, absent, fails, loaded⟩
        · refine .inl ⟨f :: fragments, .cons fragment all, ?_⟩
          simp only [loadAll, first, loaded]
          rfl
        · have other : bad ≠ path := by
            rintro rfl
            exact absurd (fails r) (by simp [first])
          refine .inr ⟨path :: before, bad, after, e, f :: fragments, rfl, .cons fragment all,
            List.not_mem_cons_of_ne_of_not_mem other absent, fails, ?_⟩
          simp only [loadAll, first, loaded]
          rfl
      · refine .inr ⟨[], path, others, e, [], rfl, .nil, List.not_mem_nil, fails, ?_⟩
        simp only [loadAll, fails]
        rfl

/-! ## The order of names -/

theorem nameOrder_refl (a : Bytes) : nameOrder a a := by
  induction a with
  | nil => rfl
  | cons x xs ih => simp [nameOrder, ih]

theorem nameOrder_total (a b : Bytes) : nameOrder a b || nameOrder b a := by
  induction a generalizing b with
  | nil => rfl
  | cons x xs ih =>
      cases b with
      | nil => rfl
      | cons y ys =>
          have rest := ih ys
          simp only [nameOrder, Bool.or_eq_true, Bool.and_eq_true, decide_eq_true_eq, beq_iff_eq]
            at rest ⊢
          by_cases same : x = y
          · exact rest.imp (fun h => .inr ⟨same, h⟩) (fun h => .inr ⟨same.symm, h⟩)
          · exact (UInt8.lt_or_lt_of_ne same).imp .inl .inl

theorem nameOrder_trans {a b c : Bytes} (h : nameOrder a b) (h' : nameOrder b c) :
    nameOrder a c := by
  induction a generalizing b c with
  | nil => rfl
  | cons x xs ih =>
      cases b with
      | nil => cases h
      | cons y ys =>
          cases c with
          | nil => cases h'
          | cons z zs =>
              simp only [nameOrder, Bool.or_eq_true, Bool.and_eq_true, decide_eq_true_eq,
                beq_iff_eq] at h h' ⊢
              rcases h with less | ⟨rfl, rest⟩ <;> rcases h' with less' | ⟨rfl, rest'⟩
              · exact .inl (UInt8.lt_trans less less')
              · exact .inl less
              · exact .inl less'
              · exact .inr ⟨rfl, ih rest rest'⟩

theorem nameOrder_antisymm {a b : Bytes} (h : nameOrder a b) (h' : nameOrder b a) : a = b := by
  induction a generalizing b with
  | nil =>
      cases b with
      | nil => rfl
      | cons y ys => cases h'
  | cons x xs ih =>
      cases b with
      | nil => cases h
      | cons y ys =>
          simp only [nameOrder, Bool.or_eq_true, Bool.and_eq_true, decide_eq_true_eq,
            beq_iff_eq] at h h'
          rcases h with less | ⟨rfl, rest⟩ <;> rcases h' with less' | ⟨same, rest'⟩
          · exact absurd less' (UInt8.lt_asymm less)
          · exact absurd same.symm (UInt8.ne_of_lt less)
          · exact absurd less' (UInt8.lt_irrefl _)
          · rw [ih rest rest']

theorem pairwise_sorted (names : List Bytes) :
    (names.mergeSort nameOrder).Pairwise fun a b => nameOrder a b :=
  @List.pairwise_mergeSort _ nameOrder (fun _ _ _ => nameOrder_trans) nameOrder_total names

/-- The names that a directory command takes, in order. -/
def wanted (t : FileTree) (directory : Path) (glob : Glob) (names : List Bytes) : List Bytes :=
  (names.filter fun name => t.isFile (directory.join ⟨name⟩) && glob.isMatch name).mergeSort
    nameOrder

theorem matching_eq (t : FileTree) (directory : Path) (glob : Glob) (names : List Bytes) :
    matching t directory glob names =
      (wanted t directory glob names).map fun name => directory.join ⟨name⟩ :=
  rfl

theorem pairwise_wanted (t : FileTree) (directory : Path) (glob : Glob) (names : List Bytes) :
    (wanted t directory glob names).Pairwise fun a b => nameOrder a b :=
  pairwise_sorted _

/-- However a directory lists its files, they come in the one order of their names. -/
theorem wanted_eq {directory : Path} {glob : Glob} {names sorted : List Bytes}
    (perm : sorted.Perm
      (names.filter fun name => t.isFile (directory.join ⟨name⟩) && glob.isMatch name))
    (order : sorted.Pairwise fun a b => nameOrder a b) :
    wanted t directory glob names = sorted :=
  ((List.mergeSort_perm _ _).trans perm.symm).eq_of_pairwise
    (fun _ _ _ _ => nameOrder_antisymm) (pairwise_wanted t directory glob names) order

/-- In a row in order, what stands before a name that comes first there sorts strictly before it. -/
theorem filter_before {before after : List Bytes} {name : Bytes}
    (sorted : (before ++ name :: after).Pairwise fun a b => nameOrder a b)
    (first : name ∉ before) :
    (before ++ name :: after).filter (fun other => !nameOrder name other) = before := by
  rw [List.pairwise_append, List.pairwise_cons] at sorted
  obtain ⟨-, ⟨later, -⟩, across⟩ := sorted
  rw [List.filter_append, List.filter_cons_of_neg (by simp [nameOrder_refl])]
  have dropped : after.filter (fun other => !nameOrder name other) = [] := by
    rw [List.filter_eq_nil_iff]
    intro other member
    simp [later other member]
  have all : before.filter (fun other => !nameOrder name other) = before := by
    rw [List.filter_eq_self]
    intro other member
    have le := across other member name List.mem_cons_self
    rw [Bool.not_eq_true', Bool.eq_false_iff]
    intro ge
    exact first (nameOrder_antisymm ge le ▸ member)
  rw [dropped, all, List.append_nil]

/-- A directory is loaded up to a file that cannot be loaded. The matching files whose names sort
    strictly before its name are put under their stems, in order. -/
def StopsAt (r : Registry) (t : FileTree) (directory : Path) (pattern : String) (e : DeskError)
    (r' : Registry) : Prop :=
  ∃ glob names name fragments,
    Glob.parse pattern = .ok glob ∧ t.list directory = .ok names ∧
    name ∈ wanted t directory glob names ∧
    (∀ g : Registry, g.loadStem t (directory.join ⟨name⟩) = .error e) ∧
    List.Forall₂ (IsFragment t)
      (((wanted t directory glob names).filter fun other => !nameOrder name other).map
        fun other => directory.join ⟨other⟩) fragments ∧
    r' = r.fill fragments

theorem stopsAt_of_split {r : Registry} {directory : Path} {pattern : String} {glob : Glob}
    {names : List Bytes} (parsed : Glob.parse pattern = .ok glob)
    (listed : t.list directory = .ok names) {before after : List Path} {e : DeskError}
    {fragments : Catalog} (split : matching t directory glob names = before ++ path :: after)
    (all : List.Forall₂ (IsFragment t) before fragments) (absent : path ∉ before)
    (fails : ∀ g : Registry, g.loadStem t path = .error e) :
    r.StopsAt t directory pattern e (r.fill fragments) := by
  have sorted := pairwise_wanted t directory glob names
  rw [matching_eq, List.map_eq_append_iff] at split
  obtain ⟨earlier, others, cut, rfl, rest⟩ := split
  obtain ⟨name, later, rfl, rfl, -⟩ := List.map_eq_cons_iff.mp rest
  rw [cut] at sorted
  have first : name ∉ earlier := fun member => absent (List.mem_map_of_mem member)
  refine ⟨glob, names, name, fragments, parsed, listed, ?_, fails, ?_, rfl⟩
  · rw [cut]
    exact List.mem_append_right _ List.mem_cons_self
  · rw [cut, filter_before sorted first]
    exact all

/-- The pattern cannot be read or the directory cannot be listed, so there are no files to load. -/
def Unlisted (t : FileTree) (directory : Path) (pattern : String) : Prop :=
  ∀ glob names, Glob.parse pattern = .ok glob → t.list directory ≠ .ok names

/-- A directory is loaded as a whole, or not at all, or up to one of its files. -/
theorem loadDirectory_cases (r : Registry) (t : FileTree) (directory : Path) (pattern : String) :
    (∃ fragments, r.loadDirectory t directory pattern =
      (.ok (fragments.map (·.1)), r.fill fragments)) ∨
    (∃ e, Unlisted t directory pattern ∧ r.loadDirectory t directory pattern = (.error e, r)) ∨
    ∃ e fragments, r.StopsAt t directory pattern e (r.fill fragments) ∧
      r.loadDirectory t directory pattern = (.error e, r.fill fragments) := by
  unfold loadDirectory
  cases parsed : Glob.parse pattern with
  | error e => exact .inr (.inl ⟨_, fun glob names other => by simp [parsed] at other, rfl⟩)
  | ok glob =>
      cases listed : t.list directory with
      | error e => exact .inr (.inl ⟨_, fun _ names _ => by simp [listed], rfl⟩)
      | ok names =>
          rcases r.loadAll_cases t (matching t directory glob names) with
            ⟨fragments, -, loaded⟩ |
            ⟨before, path, after, e, fragments, split, all, absent, fails, loaded⟩
          · exact .inl ⟨fragments, loaded⟩
          · exact .inr (.inr ⟨e, fragments,
              stopsAt_of_split parsed listed split all absent fails, loaded⟩)

/-- Three fragments, which their directory lists last first. The second in the order of names has a
    name that is no subtask id. -/
def threeParts : FileTree :=
  ⟨[([Utf8.encode "parts"], .directory),
    ([Utf8.encode "parts", Utf8.encode "c.au3"], .file (Utf8.encode "C")),
    ([Utf8.encode "parts", Utf8.encode "b-c.au3"], .file (Utf8.encode "B")),
    ([Utf8.encode "parts", Utf8.encode "a.au3"], .file (Utf8.encode "A"))], []⟩

theorem loadDirectory_threeParts :
    empty.loadDirectory threeParts (Path.ofString "parts") "*.au3" =
      (.error (.invalidSubtaskId "b-c"), ⟨[("a", "A")]⟩) := by
  have parsed : Glob.parse "*.au3" =
      .ok ⟨[.anyBytes, .literal '.', .literal 'a', .literal 'u', .literal '3']⟩ := by
    cbv
  have listed : threeParts.list (Path.ofString "parts") =
      .ok [Utf8.encode "c.au3", Utf8.encode "b-c.au3", Utf8.encode "a.au3"] := by
    decide +kernel
  have sorted : wanted threeParts (Path.ofString "parts")
      ⟨[.anyBytes, .literal '.', .literal 'a', .literal 'u', .literal '3']⟩
      [Utf8.encode "c.au3", Utf8.encode "b-c.au3", Utf8.encode "a.au3"] =
        [Utf8.encode "a.au3", Utf8.encode "b-c.au3", Utf8.encode "c.au3"] :=
    wanted_eq (by decide +kernel) (by decide +kernel)
  simp only [loadDirectory, parsed, listed, matching_eq, sorted]
  decide +kernel

end RemoteDesk.Registry
