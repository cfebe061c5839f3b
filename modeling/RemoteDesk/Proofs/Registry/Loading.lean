import RemoteDesk.Config
import RemoteDesk.Proofs.Catalog
import RemoteDesk.Proofs.FileTree.Reordered
import RemoteDesk.Proofs.Registry.Directory

/-! # What loading a directory comes to

Of the entries that a directory lists only the regular files whose names are chosen count, and they
come in the order of their names. They are inserted one by one up to the first that nothing loads.
So the outcome depends on these files alone, and not on the order in which they are listed.

Files are inserted under their stems, which two files may share. Then the later one takes the place
of the earlier one.
-/

namespace RemoteDesk.Registry

/-- Inserts fragments under their ids, one after another. -/
def insertAll (r : Registry) (fragments : Catalog) : Except DeskError Registry :=
  fragments.foldlM (fun known f => known.insert f.1 f.2) r

/-- The id under which a file is inserted: the stem of its name, if that is a text. -/
def stemId? (path : Path) : Option String :=
  (path.fileName?.map Path.stem).bind Utf8.decode?

/-- Why nothing loads a file. -/
inductive Refuses (t : FileTree) (path : Path) : DeskError → Prop where
  | unnamed (nameless : stemId? path = none) : Refuses t path (.fragmentNameNotText path)
  | unreadable {id : String} {e : OsError} (named : stemId? path = some id)
      (unread : t.readText path = .error e) : Refuses t path (.unreadableFragment path e)
  | invalid {id text : String} (named : stemId? path = some id) (read : t.readText path = .ok text)
      (invalid : Script.isSubtaskId id = false) : Refuses t path (.invalidSubtaskId id)

section Files

variable {t : FileTree} {path : Path}

theorem loadStem_of_refuses {e : DeskError} (h : Refuses t path e) (r : Registry) :
    r.loadStem t path = .error e := by
  cases h with
  | unnamed nameless =>
      rw [stemId?] at nameless
      simp only [loadStem, nameless]
  | unreadable named unread =>
      rw [stemId?] at named
      simp only [loadStem, named, loadFile, unread]
  | invalid named read invalid =>
      rw [stemId?] at named
      simp [loadStem, named, loadFile, read, insert, invalid]

theorem fragment_or_refuses (t : FileTree) (path : Path) :
    (∃ f, IsFragment t path f) ∨ ∃ e, Refuses t path e := by
  cases named : stemId? path with
  | none => exact .inr ⟨_, .unnamed named⟩
  | some id =>
      cases read : t.readText path with
      | error e => exact .inr ⟨_, .unreadable named read⟩
      | ok text =>
          cases valid : Script.isSubtaskId id with
          | true => exact .inl ⟨(id, text), named, valid, read⟩
          | false => exact .inr ⟨_, .invalid named read valid⟩

theorem refuses_of_loadStem {e : DeskError} (fails : ∀ r : Registry, r.loadStem t path = .error e) :
    Refuses t path e := by
  rcases fragment_or_refuses t path with ⟨f, fragment⟩ | ⟨e', refused⟩
  · cases (fails empty).symm.trans (loadStem_of_fragment fragment empty)
  · obtain rfl := Except.error.inj ((loadStem_of_refuses refused empty).symm.trans (fails empty))
    exact refused

theorem IsFragment.unique {f g : String × String} (h : IsFragment t path f)
    (h' : IsFragment t path g) : f = g :=
  Prod.ext (Option.some.inj (h.named.symm.trans h'.named))
    (Except.ok.inj (h.text.symm.trans h'.text))

end Files

theorem insertAll_of_fragments {t : FileTree} {paths : List Path} {fragments : Catalog}
    (all : List.Forall₂ (IsFragment t) paths fragments) (r : Registry) :
    r.insertAll fragments = .ok (r.fill fragments) := by
  induction all generalizing r with
  | nil => rfl
  | @cons path f paths fragments first _ ih =>
      have accepted : r.insert f.1 f.2 = .ok (r.fill [f]) := by
        rw [insert, if_pos first.valid]
        rfl
      rw [insertAll, List.foldlM_cons, accepted]
      exact ih (r.fill [f])

/-- What a row of files is loaded to: all of them are inserted, or those before the first one that
    nothing loads. -/
def LoadsPrefix (r : Registry) (t : FileTree) (row : List Path)
    (outcome : Except DeskError (List String) × Registry) : Prop :=
  (∃ fragments r', List.Forall₂ (IsFragment t) row fragments ∧
    r.insertAll fragments = .ok r' ∧ outcome = (.ok (fragments.map (·.1)), r')) ∨
  (∃ before path after fragments e r', row = before ++ path :: after ∧
    List.Forall₂ (IsFragment t) before fragments ∧ Refuses t path e ∧
    r.insertAll fragments = .ok r' ∧ outcome = (.error e, r'))

theorem loadAll_loadsPrefix (r : Registry) (t : FileTree) (row : List Path) :
    r.LoadsPrefix t row (r.loadAll t row) := by
  rcases r.loadAll_cases t row with
    ⟨fragments, all, loaded⟩ | ⟨before, path, after, e, fragments, split, all, -, fails, loaded⟩
  · exact .inl ⟨fragments, _, all, insertAll_of_fragments all r, loaded⟩
  · exact .inr ⟨before, path, after, fragments, e, _, split, all, refuses_of_loadStem fails,
      insertAll_of_fragments all r, loaded⟩

/-! ## The order of the listing -/

section Listing

variable (t : FileTree) (directory : Path) (chosen : Bytes → Bool)

/-- The names of the regular files among those listed that are chosen. -/
def chosenNames (names : List Bytes) : List Bytes :=
  names.filter fun name => t.isFile (directory.join ⟨name⟩) && chosen name

/-- The chosen files in the order of their names. -/
def chosenFiles (names : List Bytes) : List Path :=
  ((chosenNames t directory chosen names).mergeSort nameOrder).map fun name =>
    directory.join ⟨name⟩

variable {t directory chosen}

theorem chosenFiles_of_perm {names names' : List Bytes}
    (perm : (chosenNames t directory chosen names').Perm (chosenNames t directory chosen names)) :
    chosenFiles t directory chosen names' = chosenFiles t directory chosen names := by
  have same : (chosenNames t directory chosen names').mergeSort nameOrder =
      (chosenNames t directory chosen names).mergeSort nameOrder :=
    ((List.mergeSort_perm _ _).trans (perm.trans (List.mergeSort_perm _ _).symm)).eq_of_pairwise
      (fun _ _ _ _ => nameOrder_antisymm) (pairwise_sorted _) (pairwise_sorted _)
  rw [chosenFiles, same, chosenFiles]

theorem loadAll_reordered {t' : FileTree} (h : t.Reordered t') (r : Registry) (row : List Path) :
    r.loadAll t' row = r.loadAll t row := by
  induction row generalizing r with
  | nil => rfl
  | cons path others ih =>
      have first : r.loadStem t' path = r.loadStem t path := by
        simp only [loadStem, loadFile, h.readText_eq]
      simp only [loadAll, first, ih]

/-- The files of a directory that are chosen are loaded in the order of their names, up to the first
    that nothing loads. The outcome is the same whatever else the directory lists and in which
    order, and it is that of the command for every pattern that chooses these names. -/
theorem directory_loads_sorted_prefix {names : List Bytes} (listed : t.list directory = .ok names)
    (chosen : Bytes → Bool) (r : Registry) :
    ∃ (row : List Bytes) (outcome : Except DeskError (List String) × Registry),
      row.Pairwise (fun a b => nameOrder a b) ∧
      row.Perm (chosenNames t directory chosen names) ∧
      r.LoadsPrefix t (row.map fun name => directory.join ⟨name⟩) outcome ∧
      (∀ names', (chosenNames t directory chosen names').Perm
          (chosenNames t directory chosen names) →
        r.loadAll t (chosenFiles t directory chosen names') = outcome) ∧
      ∀ t' pattern glob, t.Reordered t' → Glob.parse pattern = .ok glob →
        (∀ name, glob.isMatch name = chosen name) →
        r.loadDirectory t' directory pattern = outcome := by
  refine ⟨_, _, pairwise_sorted _, List.mergeSort_perm _ _, r.loadAll_loadsPrefix t _, ?_, ?_⟩
  · intro names' perm
    rw [chosenFiles_of_perm perm]
    rfl
  · intro t' pattern glob reordered parsed means
    obtain ⟨names', listed', perm⟩ := reordered.list_perm listed
    have files : matching t' directory glob names' = chosenFiles t directory chosen names' := by
      simp only [matching, chosenFiles, chosenNames, reordered.isFile_eq, means]
    simp only [loadDirectory, parsed, listed', files, loadAll_reordered reordered]
    rw [chosenFiles_of_perm (perm.filter _)]
    rfl

end Listing

/-- Three parts that are listed in another order: the second one still ends the load. -/
theorem directory_loads_sorted_prefix_of_three :
    let parts := Path.ofString "parts"
    let t' : FileTree := { threeParts with entries := threeParts.entries.reverse }
    threeParts.list parts =
        .ok [Utf8.encode "c.au3", Utf8.encode "b-c.au3", Utf8.encode "a.au3"] ∧
      t'.list parts = .ok [Utf8.encode "a.au3", Utf8.encode "b-c.au3", Utf8.encode "c.au3"] ∧
      threeParts.Reordered t' ∧
      empty.loadDirectory t' parts "*.au3" =
        (.error (.invalidSubtaskId "b-c"), ⟨[("a", "A")]⟩) := by
  intro parts t'
  have listed : threeParts.list parts =
      .ok [Utf8.encode "c.au3", Utf8.encode "b-c.au3", Utf8.encode "a.au3"] := by
    decide +kernel
  have reordered : threeParts.Reordered t' :=
    ⟨List.reverse_perm _, by decide +kernel, rfl⟩
  have same : threeParts.Reordered threeParts := ⟨.refl _, reordered.distinct, rfl⟩
  obtain ⟨glob, parsed⟩ : ∃ glob, Glob.parse "*.au3" = .ok glob := ⟨_, by cbv⟩
  obtain ⟨row, outcome, -, -, -, -, all⟩ :=
    directory_loads_sorted_prefix listed glob.isMatch empty
  refine ⟨listed, by decide +kernel, reordered, ?_⟩
  rw [all t' "*.au3" glob reordered parsed fun _ => rfl,
    ← all threeParts "*.au3" glob same parsed fun _ => rfl]
  exact loadDirectory_threeParts

/-! ## Files that share a stem -/

/-- Of several fragments under one id the last one stays. -/
theorem get?_fill_of_last {id text : String} {fragments : Catalog}
    (last : fragments.LastUnder id text) (r : Registry) :
    (r.fill fragments).subtasks.get? id = some text := by
  rw [fill, Catalog.get?_foldl_put, Catalog.get?_reverse_eq_some_iff.mpr last, Option.some_or]

/-- The registry has the text of a file under the stem of its name. -/
def Holds (r : Registry) (t : FileTree) (path : Path) : Prop :=
  ∃ f, IsFragment t path f ∧ r.subtasks.get? f.1 = some f.2

theorem loadDirectory_ok {r r' : Registry} {t : FileTree} {directory : Path} {pattern : String}
    {glob : Glob} {names : List Bytes} {ids : List String}
    (parsed : Glob.parse pattern = .ok glob) (listed : t.list directory = .ok names)
    (loaded : r.loadDirectory t directory pattern = (.ok ids, r')) :
    ∃ fragments, List.Forall₂ (IsFragment t) (matching t directory glob names) fragments ∧
      ids = fragments.map (·.1) ∧ r' = r.fill fragments := by
  simp only [loadDirectory, parsed, listed] at loaded
  rcases r.loadAll_cases t (matching t directory glob names) with
    ⟨fragments, all, row⟩ | ⟨before, path, after, e, fragments, -, -, -, -, row⟩
  · obtain ⟨answer, rfl⟩ := Prod.mk.inj (loaded.symm.trans row)
    exact ⟨fragments, all, Except.ok.inj answer, rfl⟩
  · obtain ⟨answer, -⟩ := Prod.mk.inj (loaded.symm.trans row)
    cases answer

section Row

variable {t : FileTree} {files : List Path} {fragments : Catalog}
  (all : List.Forall₂ (IsFragment t) files fragments)

include all

theorem map_stemId? : files.map stemId? = (Catalog.names fragments).map some := by
  induction all with
  | nil => rfl
  | cons first _ ih =>
      simp only [List.map_cons, Catalog.names] at ih ⊢
      rw [ih, stemId?, first.named]

theorem fragment_of_mem {path : Path} (member : path ∈ files) :
    ∃ f ∈ fragments, IsFragment t path f := by
  induction all with
  | nil => cases member
  | @cons first f _ _ isFragment _ ih =>
      rcases List.mem_cons.mp member with rfl | later
      · exact ⟨f, List.mem_cons_self, isFragment⟩
      · obtain ⟨g, known, found⟩ := ih later
        exact ⟨g, List.mem_cons_of_mem _ known, found⟩

/-- The last file with a stem is the one that the registry has. -/
theorem holds_last (r : Registry) {path : Path} (member : path ∈ files) :
    ∃ before last after, files = before ++ last :: after ∧ stemId? last = stemId? path ∧
      (∀ other ∈ after, stemId? other ≠ stemId? path) ∧ (r.fill fragments).Holds t last := by
  obtain ⟨f, known, isFragment⟩ := fragment_of_mem all member
  obtain ⟨text, early, late, rfl, absent⟩ :=
    Catalog.exists_lastUnder (List.mem_map_of_mem (f := Prod.fst) known)
  obtain ⟨last, after, ends, later, split⟩ :=
    List.forall₂_cons_right_iff.mp (List.forall₂_drop_append files early _ all)
  have stem : stemId? path = some f.1 := isFragment.named
  refine ⟨files.take early.length, last, after, ?_, ?_, ?_, ⟨_, ends, ?_⟩⟩
  · rw [← split, List.take_append_drop]
  · rw [stem]
    exact ends.named
  · intro other among same
    have stems := List.mem_map_of_mem (f := stemId?) among
    rw [map_stemId? later, same, stem] at stems
    obtain ⟨id, known, equal⟩ := List.mem_map.mp stems
    exact absent (Option.some.inj equal ▸ known)
  · exact get?_fill_of_last ⟨early, late, rfl, absent⟩ r

/-- Every file has its text in the registry if and only if files with one stem have one text. -/
theorem holds_iff (r : Registry) :
    (∀ path ∈ files, (r.fill fragments).Holds t path) ↔
      ∀ path ∈ files, ∀ other ∈ files, stemId? path = stemId? other →
        t.readText path = t.readText other := by
  constructor
  · intro holds path member other member' same
    obtain ⟨f, isFragment, stored⟩ := holds path member
    obtain ⟨g, isFragment', stored'⟩ := holds other member'
    have stem : f.1 = g.1 :=
      Option.some.inj ((isFragment.named.symm.trans same).trans isFragment'.named)
    rw [stem, stored'] at stored
    rw [isFragment.text, isFragment'.text, Option.some.inj stored]
  · intro texts path member
    obtain ⟨before, last, after, split, same, -, f, isLast, stored⟩ := holds_last all r member
    have among : last ∈ files := by simp [split]
    refine ⟨f, ⟨?_, isLast.valid, ?_⟩, stored⟩
    · exact same.symm.trans isLast.named
    · rw [← isLast.text]
      exact texts path member last among same.symm

end Row

/-- What a directory command that succeeds reports are the stems of the matching files. They are
    distinct if and only if no two files share a stem, under each stem the registry has the text of
    the last file, and it has the text of every file if and only if files that share a stem have the
    same text. -/
theorem matching_files_registered_iff {r r' : Registry} {t : FileTree} {directory : Path}
    {pattern : String} {glob : Glob} {names : List Bytes} {ids : List String}
    (parsed : Glob.parse pattern = .ok glob) (listed : t.list directory = .ok names)
    (loaded : r.loadDirectory t directory pattern = (.ok ids, r')) :
    let files := matching t directory glob names
    files.map stemId? = ids.map some ∧
      (ids.Nodup ↔ files.Pairwise fun path other => stemId? path ≠ stemId? other) ∧
      (∀ path ∈ files, ∃ before last after, files = before ++ last :: after ∧
        stemId? last = stemId? path ∧ (∀ other ∈ after, stemId? other ≠ stemId? path) ∧
        r'.Holds t last) ∧
      ((∀ path ∈ files, r'.Holds t path) ↔
        ∀ path ∈ files, ∀ other ∈ files, stemId? path = stemId? other →
          t.readText path = t.readText other) := by
  intro files
  obtain ⟨fragments, all, rfl, rfl⟩ := loadDirectory_ok parsed listed loaded
  have stems := map_stemId? all
  refine ⟨stems, ?_, fun path => holds_last all r, holds_iff all r⟩
  have injective : Function.Injective (some : String → Option String) := Option.some_injective _
  rw [← List.pairwise_map (f := stemId?) (R := (· ≠ ·)), stems]
  exact (List.nodup_map_iff injective).symm

/-- Two files that share a stem. -/
def twoKinds : FileTree :=
  ⟨[([Utf8.encode "parts"], .directory),
    ([Utf8.encode "parts", Utf8.encode "a.au3"], .file (Utf8.encode "A")),
    ([Utf8.encode "parts", Utf8.encode "a.txt"], .file (Utf8.encode "T"))], []⟩

theorem list_twoKinds :
    twoKinds.list (Path.ofString "parts") = .ok [Utf8.encode "a.au3", Utf8.encode "a.txt"] := by
  decide +kernel

/-- A pattern that matches both files loads both, and one of them is lost. -/
theorem loadDirectory_twoKinds {glob : Glob} (parsed : Glob.parse "*" = .ok glob) :
    matching twoKinds (Path.ofString "parts") glob [Utf8.encode "a.au3", Utf8.encode "a.txt"] =
        [Path.ofString "parts/a.au3", Path.ofString "parts/a.txt"] ∧
      empty.loadDirectory twoKinds (Path.ofString "parts") "*" =
        (.ok ["a", "a"], ⟨[("a", "T")]⟩) := by
  obtain rfl : glob = ⟨[.anyBytes]⟩ := by
    have star : Glob.parse "*" = .ok ⟨[.anyBytes]⟩ := by cbv
    exact Except.ok.inj (parsed.symm.trans star)
  have sorted : wanted twoKinds (Path.ofString "parts") ⟨[.anyBytes]⟩
      [Utf8.encode "a.au3", Utf8.encode "a.txt"] = [Utf8.encode "a.au3", Utf8.encode "a.txt"] :=
    wanted_eq (by decide +kernel) (by decide +kernel)
  simp only [loadDirectory, parsed, list_twoKinds, matching_eq, sorted]
  decide +kernel

theorem matching_files_registered_iff_of_two :
    ∃ glob, Glob.parse "*" = .ok glob ∧
      twoKinds.list (Path.ofString "parts") = .ok [Utf8.encode "a.au3", Utf8.encode "a.txt"] ∧
      empty.loadDirectory twoKinds (Path.ofString "parts") "*" =
        (.ok ["a", "a"], ⟨[("a", "T")]⟩) ∧
      (Path.ofString "parts/a.au3").fileName? = some (Utf8.encode "a.au3") ∧
      ¬ ∀ path ∈ [Path.ofString "parts/a.au3", Path.ofString "parts/a.txt"],
        Registry.Holds ⟨[("a", "T")]⟩ twoKinds path := by
  obtain ⟨glob, parsed⟩ : ∃ glob, Glob.parse "*" = .ok glob := ⟨_, by cbv⟩
  obtain ⟨files, loaded⟩ := loadDirectory_twoKinds parsed
  obtain ⟨-, -, -, every⟩ := matching_files_registered_iff parsed list_twoKinds loaded
  rw [files] at every
  have apart : twoKinds.readText (Path.ofString "parts/a.au3") ≠
      twoKinds.readText (Path.ofString "parts/a.txt") := by
    decide +kernel
  have shared : stemId? (Path.ofString "parts/a.au3") = stemId? (Path.ofString "parts/a.txt") := by
    decide +kernel
  refine ⟨glob, parsed, list_twoKinds, loaded, by decide +kernel, fun holds => ?_⟩
  exact apart (every.mp holds _ (by simp) _ (by simp) shared)

/-- With a pattern that the rules for settings allow, a directory command reports a file as loaded
    whose text no id has. -/
theorem file_lost_behind_shared_stem :
    ({ Config.default with fragmentGlob := "*" } : Config).validate.isOk ∧
      empty.loadDirectory twoKinds (Path.ofString "parts") "*" =
        (.ok ["a", "a"], ⟨[("a", "T")]⟩) ∧
      twoKinds.isFile (Path.ofString "parts/a.au3") ∧
      ¬ Registry.Holds ⟨[("a", "T")]⟩ twoKinds (Path.ofString "parts/a.au3") := by
  obtain ⟨glob, parsed⟩ : ∃ glob, Glob.parse "*" = .ok glob := ⟨_, by cbv⟩
  refine ⟨by decide +kernel, (loadDirectory_twoKinds parsed).2, by decide +kernel, ?_⟩
  rintro ⟨⟨id, text⟩, isFragment, stored⟩
  have read : twoKinds.readText (Path.ofString "parts/a.au3") = .ok "A" := by decide +kernel
  have named : stemId? (Path.ofString "parts/a.au3") = some "a" := by decide +kernel
  obtain rfl : "A" = text := Except.ok.inj (read.symm.trans isFragment.text)
  obtain rfl : "a" = id := Option.some.inj (named.symm.trans isFragment.named)
  exact absurd stored (by decide)

end RemoteDesk.Registry
