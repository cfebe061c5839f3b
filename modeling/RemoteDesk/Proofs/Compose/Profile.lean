import RemoteDesk.Proofs.Catalog
import RemoteDesk.Proofs.Compose
import RemoteDesk.Proofs.FileTree.Looking
import RemoteDesk.Proofs.Registry.Loading
import RemoteDesk.Proofs.Script.Sections

/-! # A profile stands for flags

What a profile says could as well be said by the request itself: its values where the request has
none of its own, and its subtasks as words before those of the request. Nothing else of a profile
matters once it is read. A path of the profile starts from the directory of the profile, so the word
that stands for it has the joined path.

A profile may have ids that no word can have, such as those with an equals sign, and paths that name
nothing. Composing fails at each of them, so a request that succeeds has a word for every subtask.
-/

namespace RemoteDesk.ComposeRequest

/-- The word that asks for a file under an id. -/
def word (file : String × Path) : String :=
  file.1 ++ "=" ++ file.2.display

/-- The ids and files of a profile in this directory. -/
def joined (base : Path) (files : List (String × String)) : List (String × Path) :=
  files.map fun file => (file.1, base.join (Path.ofString file.2))

/-- The request that says itself what the profile says, whose subtasks are these ids and paths. -/
def spelledOut (r : ComposeRequest) (p : Profile) (base : Path) (files : List (String × String)) :
    ComposeRequest where
  profile := none
  computer := r.computer <|> p.computer
  username := r.username <|> p.username
  password := r.password <|> p.password
  index := r.index <|> p.index
  subtasks := (joined base files).map word ++ r.subtasks
  subtaskDirectory := none

/-! ## Files -/

section Files

variable {t : FileTree} {g g' : Registry}

/-- The file can be loaded under its id: the id is a function name, and the file holds the text. -/
structure Loads (t : FileTree) (file : String × Path) (f : String × String) : Prop where
  named : f.1 = file.1
  valid : Script.isSubtaskId file.1
  text : t.readText file.2 = .ok f.2

theorem addFiles_append (t : FileTree) (g : Registry) (files others : List (String × Path)) :
    addFiles t g (files ++ others) = addFiles t g files >>= (addFiles t · others) :=
  List.foldlM_append ..

/-- What files come to that are all loaded. -/
theorem addFiles_ok {files : List (String × Path)} (h : addFiles t g files = .ok g') :
    ∃ fragments, List.Forall₂ (Loads t) files fragments ∧ g' = g.fill fragments := by
  induction files generalizing g with
  | nil => exact ⟨[], .nil, (Except.ok.inj h).symm⟩
  | cons file rest ih =>
      rw [addFiles_cons] at h
      rcases g.loadFile_cases t file.1 file.2 with ⟨text, read, valid, loaded⟩ | ⟨e, refused⟩
      · rw [loaded] at h
        obtain ⟨fragments, all, filled⟩ := ih h
        exact ⟨(file.1, text) :: fragments, .cons ⟨rfl, valid, read⟩ all, filled⟩
      · rw [refused] at h
        cases h

/-- A file that can be loaded and typed can be asked for in a word. -/
theorem Loads.splitSubtask_word {file : String × Path} {f : String × String} (h : Loads t file f)
    (spelled : file.2.Spelled) : splitSubtask (word file) = .ok file := by
  have named : file.1 ≠ "" := by
    intro empty
    have valid := h.valid
    rw [empty] at valid
    exact absurd valid (by decide)
  have bare : '=' ∉ file.1.toList := fun member =>
    absurd (Script.isIdPart_of_mem h.valid member) (by decide)
  have filed : file.2.display ≠ "" := by
    intro empty
    have text := h.text
    rw [← spelled.ofString_display, empty] at text
    cases text
  rw [word, splitSubtask_of named bare filed, spelled.ofString_display]

end Files

/-! ## Words -/

section Words

variable {t : FileTree} {g g' : Registry} {words : List String} {files : List (String × Path)}

/-- Words that are all loaded ask for files. -/
theorem askFor_of_addWords (h : addWords t g words = .ok g') : ∃ files, AskFor words files := by
  induction words generalizing g with
  | nil => exact ⟨[], .nil⟩
  | cons word rest ih =>
      rw [addWords_cons] at h
      cases split : splitSubtask word with
      | error e => simp [split, bind, Except.bind] at h
      | ok file =>
          cases loaded : g.loadFile t file.1 file.2 with
          | error e => simp [split, loaded, bind, Except.bind] at h
          | ok next =>
              simp only [split, loaded, bind, Except.bind] at h
              obtain ⟨files, all⟩ := ih h
              exact ⟨file :: files, .cons split all⟩

theorem askFor_of_loads {fragments : Catalog} (all : List.Forall₂ (Loads t) files fragments)
    (spelled : ∀ file ∈ files, file.2.Spelled) : AskFor (files.map word) files := by
  induction all with
  | nil => exact .nil
  | cons first _ ih =>
      refine .cons (first.splitSubtask_word (spelled _ List.mem_cons_self)) (ih ?_)
      exact fun file later => spelled file (List.mem_cons_of_mem _ later)

end Words

/-! ## Composing -/

section Composing

variable {r : ComposeRequest} {p : Profile} {base : Path} {config : Config} {t : FileTree}

theorem registry_of_files {found files : List (String × Path)} (alone : r.subtaskDirectory = none)
    (profile : p.subtaskFiles base = .ok found) (own : AskFor r.subtasks files) (pattern : String) :
    r.registry t p base pattern = addFiles t .empty (found ++ files) := by
  unfold registry
  rw [profile, alone, addFiles_append]
  change addFiles t .empty found >>= (addWords t · r.subtasks) = _
  exact congrArg (_ >>= ·) (funext (addWords_of_askFor own t))

/-- The subtasks that a request without a directory comes to are those of the profile, and after
    them those that its own words ask for. -/
theorem registry_ok {g : Registry} {pattern : String} (alone : r.subtaskDirectory = none)
    (h : r.registry t p base pattern = .ok g) :
    ∃ found files, p.subtaskFiles base = .ok found ∧ AskFor r.subtasks files ∧
      addFiles t .empty (found ++ files) = .ok g := by
  cases profile : p.subtaskFiles base with
  | error e => simp [registry, profile, bind, Except.bind] at h
  | ok found =>
      cases loaded : addFiles t .empty found with
      | error e => simp [registry, profile, loaded, bind, Except.bind] at h
      | ok known =>
          have own : addWords t known r.subtasks = .ok g := by
            simpa [registry, profile, loaded, alone, bind, Except.bind, pure, Except.pure] using h
          obtain ⟨files, asked⟩ := askFor_of_addWords own
          refine ⟨found, files, rfl, asked, ?_⟩
          rw [← registry_of_files alone profile asked pattern, h]

/-- What the profile says comes to the same when the request says it. -/
theorem values_of_spelledOut (r : ComposeRequest) (p : Profile) (base : Path)
    (files : List (String × String)) (config : Config) :
    (r.spelledOut p base files).taskIndex .empty config = r.taskIndex p config ∧
      (r.spelledOut p base files).credentials .empty = r.credentials p := by
  have same {α : Type} (x : Option α) : (x <|> none) = x := by cases x <;> rfl
  constructor
  · simp only [taskIndex, spelledOut, Profile.empty, same]
  · simp only [credentials, spelledOut, Profile.empty, same]

theorem names_of_loads {files : List (String × Path)} {fragments : Catalog}
    (all : List.Forall₂ (Loads t) files fragments) : fragments.names = files.map (·.1) := by
  induction all with
  | nil => rfl
  | @cons file f _ _ first _ ih =>
      rw [Catalog.names_cons f.1 f.2, ih, first.named, List.map_cons]

/-- Of several files under one id the text of the last one stays. -/
theorem text_of_last {files before after : List (String × Path)} {file : String × Path}
    {fragments : Catalog} (all : List.Forall₂ (Loads t) files fragments)
    (row : files = before ++ file :: after) (last : file.1 ∉ after.map (·.1)) :
    ∃ text, t.readText file.2 = .ok text ∧ fragments.putAll.get? file.1 = some text := by
  have rest := List.forall₂_drop before.length all
  rw [row, List.drop_left] at rest
  obtain ⟨f, late, loads, later, split⟩ := List.forall₂_cons_left_iff.mp rest
  have whole : fragments = fragments.take before.length ++ (file.1, f.2) :: late := by
    rw [← loads.named, ← split, List.take_append_drop]
  rw [← names_of_loads later] at last
  refine ⟨f.2, loads.text, ?_⟩
  rw [Catalog.get?_putAll, Catalog.get?_reverse_eq_some_iff]
  exact ⟨_, late, whole, last⟩

/-- The index, the credentials and the subtasks of a task come from the request where it says
    something and else from the profile. The subtasks are those of the files: each id stands where it
    comes first in their row, with the text of the last file of that id. -/
structure Merges (r : ComposeRequest) (p : Profile) (files : List (String × Path)) (config : Config)
    (t : FileTree) (task : CompletedTask) (computer : String) (fragments : Catalog) : Prop where
  index : task.index = (r.index <|> p.index).getD config.firstTaskIndex
  target : (r.computer <|> p.computer) = some computer
  script : task.script = Script.assemble task.index
    ⟨computer, (r.username <|> p.username).getD "", (r.password <|> p.password).getD ""⟩ fragments
    config.escapeCredentials
  subtasks : task.subtasks = fragments.names
  order : fragments.names = (files.map (·.1)).eraseDups
  last : ∀ before file after, files = before ++ file :: after → file.1 ∉ after.map (·.1) →
    ∃ text, t.readText file.2 = .ok text ∧ fragments.get? file.1 = some text

theorem merges_of_loads {files : List (String × Path)} {fragments : Catalog} {index : UInt32}
    {c : Credentials} (chosen : r.taskIndex p config = .ok index)
    (given : r.credentials p = .ok c) (all : List.Forall₂ (Loads t) files fragments) :
    r.Merges p files config t
      ⟨index, Script.assemble index c fragments.putAll config.escapeCredentials,
        fragments.putAll.names⟩ c.computer fragments.putAll := by
  simp only [taskIndex] at chosen
  split at chosen
  · cases chosen
  unfold credentials at given
  split at given
  · cases given
  next computer target =>
    obtain rfl := Except.ok.inj given
    refine ⟨(Except.ok.inj chosen).symm, target, rfl, rfl, ?_, ?_⟩
    · rw [Catalog.names_putAll, names_of_loads all]
    · exact fun before file after row last => text_of_last all row last

end Composing

/-- A request that names a profile and no directory, and that composes a task, composes the same task
    without the profile if it says itself what the profile says. So what the request says wins over
    the profile, and an id of both stays where the profile has it, with the fragment of the
    request. -/
theorem profile_stands_for_flags {r : ComposeRequest} {file : String} {config : Config}
    {t : FileTree} {task : CompletedTask} (named : r.profile = some file)
    (alone : r.subtaskDirectory = none) (composed : r.compose config t = .ok task) :
    let base := (Path.ofString file).parent?.getD .empty
    ∃ (p : Profile) (files : List (String × String)) (own : List (String × Path))
      (computer : String) (fragments : Catalog),
      Profile.load t (Path.ofString file) = .ok p ∧
      p.subtasks.map (fun entry => (entry.1.text?, entry.2.text?)) =
        files.map (fun file => (some file.1, some file.2)) ∧
      AskFor r.subtasks own ∧
      (r.spelledOut p base files).compose config t = .ok task ∧
      r.Merges p (joined base files ++ own) config t task computer fragments := by
  intro base
  obtain ⟨p, base', index, c, g, read, chosen, given, loaded, rfl⟩ := compose_eq_ok.mp composed
  obtain ⟨profile, rfl⟩ : Profile.load t (Path.ofString file) = .ok p ∧ base = base' := by
    simp only [loadProfile, named] at read
    cases profile : Profile.load t (Path.ofString file) with
    | error e => simp [profile, bind, Except.bind] at read
    | ok p' =>
        simp only [profile, bind, Except.bind, pure, Except.pure, Except.ok.injEq,
          Prod.mk.injEq] at read
        exact ⟨congrArg Except.ok read.1, read.2⟩
  obtain ⟨found, own, subtasks, asked, filled⟩ := registry_ok alone loaded
  obtain ⟨files, texts, rfl⟩ := Profile.texts_of_subtaskFiles subtasks
  obtain ⟨fragments, all, rfl⟩ := addFiles_ok filled
  refine ⟨p, files, own, c.computer, Catalog.putAll fragments, profile, texts, asked, ?_,
    merges_of_loads chosen given all⟩
  -- The files of the profile were loaded, so there are words that ask for them.
  have words : AskFor ((joined base files).map word) (joined base files) := by
    have first := List.forall₂_take (joined base files).length all
    rw [joined, List.take_left] at first
    refine askFor_of_loads first fun file member => ?_
    obtain ⟨⟨id, path⟩, -, rfl⟩ := List.mem_map.mp member
    exact (Path.spelled_ofString _).directory.join (Path.spelled_ofString path)
  obtain ⟨sameIndex, sameCredentials⟩ := values_of_spelledOut r p base files config
  have unasked : Profile.empty.subtaskFiles .empty = .ok [] := rfl
  have sameFiles : (r.spelledOut p base files).registry t .empty .empty config.fragmentGlob =
      addFiles t .empty (joined base files ++ own) :=
    registry_of_files rfl unasked (List.rel_append words asked) config.fragmentGlob
  rw [compose_eq_ok]
  exact ⟨.empty, .empty, index, c, _, rfl, sameIndex.trans chosen, sameCredentials.trans given,
    sameFiles.trans filled, rfl⟩

/-- The profile names the computer and two fragments, the first of which the request replaces by one
    of its own. -/
theorem profile_stands_for_flags_at_replaced_fragment :
    let r : ComposeRequest :=
      ⟨some "job/job.yaml", none, some "user", none, some 7, ["open=other.au3"], none⟩
    let flags : ComposeRequest := ⟨none, some "host", some "user", none, some 7,
      ["open=job/open.au3", "close=job/close.au3", "open=other.au3"], none⟩
    ∃ (t : FileTree) (task : CompletedTask) (fragments : Catalog),
      r.compose .default t = .ok task ∧ flags.compose .default t = .ok task ∧
      task.subtasks = ["open", "close"] ∧
      task.script = Script.assemble 7 ⟨"host", "user", ""⟩ fragments true ∧
      fragments.get? "open" = some "Stop()\n" := by
  intro r flags
  let file (path : List String) (text : String) : Place × Entry :=
    (path.map Utf8.encode, .file (Utf8.encode text))
  -- The files get a name, so that only the steps below that need them look into them.
  obtain ⟨t, tree⟩ : ∃ t : FileTree, t = ⟨[([Utf8.encode "job"], .directory),
      file ["job", "job.yaml"] ("computer: host\nusername: root\n" ++
        "subtasks:\n  open: open.au3\n  close: close.au3\n"),
      file ["job", "open.au3"] "Run()\n", file ["job", "close.au3"] "Close()\n",
      file ["other.au3"] "Stop()\n"], []⟩ := ⟨_, rfl⟩
  have outcome : (r.compose .default t).toOption.map (fun task => (task.index, task.subtasks)) =
      some (7, ["open", "close"]) := by
    rw [tree]
    decide +kernel
  have values : (Profile.load t (Path.ofString "job/job.yaml")).toOption.map (fun p =>
      (p.computer, p.username, p.password, p.index)) =
      some (some "host", some "root", none, none) := by
    rw [tree]
    decide +kernel
  have entries : (Profile.load t (Path.ofString "job/job.yaml")).toOption.map (fun p =>
      p.subtasks.map fun entry => (entry.1.text?, entry.2.text?)) =
      some [(some "open", some "open.au3"), (some "close", some "close.au3")] := by
    rw [tree]
    decide +kernel
  have replaced : t.readText (Path.ofString "other.au3") = .ok "Stop()\n" := by
    rw [tree]
    decide +kernel
  obtain ⟨task, answer, told⟩ := Option.map_eq_some_iff.mp outcome
  obtain ⟨index, subtasks⟩ := Prod.mk.inj told
  have composed := ok_of_toOption answer
  obtain ⟨p, files, own, computer, fragments, read, texts, asked, same, merges⟩ :=
    profile_stands_for_flags rfl rfl composed
  rw [read] at values entries
  simp only [Except.toOption, Option.map_some, Option.some.injEq, Prod.mk.injEq] at values entries
  obtain ⟨host, -, password, unset⟩ := values
  obtain rfl : files = [("open", "open.au3"), ("close", "close.au3")] := by
    have injective : Function.Injective fun file : String × String =>
        (some file.1, some file.2) := by
      rintro ⟨a, b⟩ ⟨c, d⟩ equal
      simpa using equal
    exact List.map_injective_iff.mpr injective (texts.symm.trans entries)
  have spelled : r.spelledOut p (((Path.ofString "job/job.yaml").parent?).getD .empty)
      [("open", "open.au3"), ("close", "close.au3")] = flags := by
    have words : (joined (((Path.ofString "job/job.yaml").parent?).getD .empty)
        [("open", "open.au3"), ("close", "close.au3")]).map word =
        ["open=job/open.au3", "close=job/close.au3"] := by
      decide +kernel
    simp only [spelledOut, words, host, password, unset]
    rfl
  obtain rfl : own = [("open", Path.ofString "other.au3")] := by
    have split : splitSubtask "open=other.au3" = .ok ("open", Path.ofString "other.au3") := by
      decide +kernel
    obtain ⟨file, others, first, rest, rfl⟩ := List.forall₂_cons_left_iff.mp asked
    rw [List.forall₂_nil_left_iff.mp rest, Except.ok.inj (first.symm.trans split)]
  rw [spelled] at same
  refine ⟨t, task, fragments, composed, same, subtasks, ?_, ?_⟩
  · obtain rfl : "host" = computer := by simpa [r, host] using merges.target
    rw [merges.script, index, password]
    rfl
  · obtain ⟨text, readText, held⟩ := merges.last _ _ [] rfl List.not_mem_nil
    rw [held]
    exact congrArg some (Except.ok.inj (readText.symm.trans replaced))

end RemoteDesk.ComposeRequest
