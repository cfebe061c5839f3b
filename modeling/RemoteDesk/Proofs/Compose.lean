import Mathlib.Data.List.Forall2
import RemoteDesk.Compose
import RemoteDesk.Proofs.Path
import RemoteDesk.Proofs.Session.Operations
import RemoteDesk.Shell.Command

/-! # What a request comes to

A request that has all it needs comes to an index, credentials and a row of commands that load
fragments: one for each subtask of its profile, one for its directory, one for each subtask of its
own. Composing authors the task of that index with those credentials and with the subtasks that the
commands load, one after another, into an empty registry.
-/

namespace RemoteDesk

namespace Registry

/-- The subtasks that wait once the fragments that a command names are loaded. A command that names
    none loads none. -/
def load (t : FileTree) (pattern : String) (g : Registry) : Command → Except DeskError Registry
  | .subtask id path => g.loadFile t id (Path.ofString path)
  | .subtaskDir directory =>
    let (loaded, g') := g.loadDirectory t (Path.ofString directory) pattern
    loaded.map fun _ => g'
  | _ => .ok g

/-- Loads what the commands name, up to the first that fails. -/
def loadEach (t : FileTree) (pattern : String) (g : Registry) (commands : List Command) :
    Except DeskError Registry :=
  commands.foldlM (load t pattern) g

theorem loadEach_append (t : FileTree) (pattern : String) (g : Registry) (cs ds : List Command) :
    g.loadEach t pattern (cs ++ ds) =
      g.loadEach t pattern cs >>= fun g' => g'.loadEach t pattern ds :=
  List.foldlM_append ..

end Registry

/-- A profile that has texts for all ids and paths gives every subtask a file. -/
theorem Profile.subtaskFiles_of_texts {p : Profile} {files : List (String × String)}
    (texts : p.subtasks.map (fun entry => (entry.1.text?, entry.2.text?)) =
      files.map fun file => (some file.1, some file.2)) (base : Path) :
    p.subtaskFiles base =
      .ok (files.map fun file => (file.1, base.join (Path.ofString file.2))) := by
  unfold subtaskFiles
  generalize p.subtasks = entries at texts
  induction files generalizing entries with
  | nil =>
      obtain rfl := List.map_eq_nil_iff.mp texts
      rfl
  | cons file rest ih =>
      obtain ⟨entry, others, rfl, same, texts⟩ := List.map_eq_cons_iff.mp texts
      obtain ⟨id, path⟩ := Prod.mk.inj same
      have first : subtaskFile base entry = .ok (file.1, base.join (Path.ofString file.2)) := by
        simp only [subtaskFile, id, path]
      rw [List.mapM_cons, first, ih others texts]
      rfl

theorem Profile.subtaskFile_ok {base : Path} {entry : Yaml.Value × Yaml.Value}
    {found : String × Path} (h : subtaskFile base entry = .ok found) :
    ∃ file : String × String, (entry.1.text?, entry.2.text?) = (some file.1, some file.2) ∧
      found = (file.1, base.join (Path.ofString file.2)) := by
  unfold subtaskFile at h
  split at h
  · cases h
  · next id named =>
      split at h
      · cases h
      · next path filed => exact ⟨(id, path), by rw [named, filed], (Except.ok.inj h).symm⟩

/-- If every subtask has a file, all ids and paths are texts. -/
theorem Profile.texts_of_subtaskFiles {p : Profile} {base : Path} {found : List (String × Path)}
    (h : p.subtaskFiles base = .ok found) :
    ∃ files : List (String × String),
      p.subtasks.map (fun entry => (entry.1.text?, entry.2.text?)) =
        files.map (fun file => (some file.1, some file.2)) ∧
      found = files.map fun file => (file.1, base.join (Path.ofString file.2)) := by
  unfold subtaskFiles at h
  generalize p.subtasks = entries at h ⊢
  induction entries generalizing found with
  | nil => exact ⟨[], rfl, (Except.ok.inj h).symm⟩
  | cons entry rest ih =>
      rw [List.mapM_cons] at h
      cases first : subtaskFile base entry with
      | error e => simp [first, bind, Except.bind] at h
      | ok head =>
          cases others : rest.mapM (subtaskFile base) with
          | error e => simp [first, others, bind, Except.bind] at h
          | ok tail =>
              simp only [first, others, bind, Except.bind, pure, Except.pure, Except.ok.injEq] at h
              obtain ⟨file, text, same⟩ := subtaskFile_ok first
              obtain ⟨files, texts, row⟩ := ih others
              refine ⟨file :: files, ?_, ?_⟩
              · rw [List.map_cons, text, texts, List.map_cons]
              · rw [← h, same, row, List.map_cons]

namespace ComposeRequest

theorem splitSubtask_of {id path : String} (named : id ≠ "") (bare : '=' ∉ id.toList)
    (filed : path ≠ "") : splitSubtask (id ++ "=" ++ path) = .ok (id, Path.ofString path) := by
  have keeps : ∀ c ∈ id.toList, decide (c ≠ '=') = true := fun c member =>
    decide_eq_true fun same => bare (same ▸ member)
  have letters : (id ++ "=" ++ path).toList = id.toList ++ '=' :: path.toList := by simp
  have before : (id ++ "=" ++ path).toList.takeWhile (· ≠ '=') = id.toList := by
    rw [letters, List.takeWhile_append_of_pos keeps]
    simp
  have after : (id ++ "=" ++ path).toList.dropWhile (· ≠ '=') = '=' :: path.toList := by
    rw [letters, List.dropWhile_append_of_pos keeps]
    simp
  obtain ⟨a, as, idLetters⟩ : ∃ a as, id.toList = a :: as :=
    List.exists_cons_of_ne_nil (named ∘ String.toList_eq_nil_iff.mp)
  obtain ⟨c, cs, pathLetters⟩ : ∃ c cs, path.toList = c :: cs :=
    List.exists_cons_of_ne_nil (filed ∘ String.toList_eq_nil_iff.mp)
  unfold splitSubtask
  simp only [before, after, idLetters, pathLetters]
  rw [← idLetters, ← pathLetters, String.ofList_toList, String.ofList_toList]

/-- The words that can be split are those of an id and a path. -/
theorem splitSubtask_ok_iff {word : String} :
    (∃ x, splitSubtask word = .ok x) ↔
      ∃ id path, word = id ++ "=" ++ path ∧ id ≠ "" ∧ '=' ∉ id.toList ∧ path ≠ "" := by
  constructor
  · rintro ⟨x, split⟩
    unfold splitSubtask at split
    simp only at split
    split at split
    · next a as b c cs before after =>
        have whole := List.takeWhile_append_dropWhile (p := (· ≠ '=')) (l := word.toList)
        have stops := List.head?_dropWhile_not (· ≠ '=') word.toList
        rw [after, List.head?_cons] at stops
        obtain rfl : b = '=' := by simpa using stops
        rw [before, after] at whole
        refine ⟨String.ofList (a :: as), String.ofList (c :: cs), ?_, ?_, ?_, ?_⟩
        · rw [← String.toList_inj, ← whole]
          simp
        · simp [← String.toList_inj]
        · rw [String.toList_ofList, ← before]
          intro member
          simpa using List.all_eq_true.mp List.all_takeWhile _ member
        · simp [← String.toList_inj]
    · cases split
  · rintro ⟨id, path, rfl, named, bare, filed⟩
    exact ⟨_, splitSubtask_of named bare filed⟩

/-- The words ask for these files, under these ids. -/
abbrev AskFor (words : List String) (files : List (String × Path)) : Prop :=
  List.Forall₂ (fun word file => splitSubtask word = .ok file) words files

theorem addFiles_cons (t : FileTree) (g : Registry) (file : String × Path)
    (files : List (String × Path)) :
    addFiles t g (file :: files) = g.loadFile t file.1 file.2 >>= (addFiles t · files) :=
  rfl

theorem addWords_cons (t : FileTree) (g : Registry) (word : String) (words : List String) :
    addWords t g (word :: words) =
      splitSubtask word >>= fun file =>
        g.loadFile t file.1 file.2 >>= (addWords t · words) := by
  unfold addWords
  rw [List.foldlM_cons]
  cases splitSubtask word <;> rfl

theorem addWords_of_askFor {words : List String} {files : List (String × Path)}
    (h : AskFor words files) (t : FileTree) (g : Registry) :
    addWords t g words = addFiles t g files := by
  induction h generalizing g with
  | nil => rfl
  | cons first _ ih =>
      rw [addWords_cons, first, addFiles_cons]
      exact congrArg (_ >>= ·) (funext ih)

theorem author_eq (index : UInt32) (c : Credentials) (g : Registry) (escaped : Bool) :
    author index c g escaped = .ok (((Session.started index).given c).task index g escaped) :=
  rfl

/-- A task that is composed is that of the index, the credentials and the subtasks which the request
    and its profile come to. -/
theorem compose_eq_ok {r : ComposeRequest} {config : Config} {t : FileTree} {task : CompletedTask} :
    r.compose config t = .ok task ↔
      ∃ profile base index c g, r.loadProfile t = .ok (profile, base) ∧
        r.taskIndex profile config = .ok index ∧ r.credentials profile = .ok c ∧
        r.registry t profile base config.fragmentGlob = .ok g ∧
        task = ⟨index, Script.assemble index c g.subtasks config.escapeCredentials, g.ids⟩ := by
  constructor
  · intro composed
    unfold compose at composed
    rcases read : r.loadProfile t with e | ⟨profile, base⟩
    · simp [read, bind, Except.bind] at composed
    rcases chosen : r.taskIndex profile config with e | index
    · simp [read, chosen, bind, Except.bind] at composed
    rcases given : r.credentials profile with e | c
    · simp [read, chosen, given, bind, Except.bind] at composed
    rcases loaded : r.registry t profile base config.fragmentGlob with e | g
    · simp [read, chosen, given, loaded, bind, Except.bind] at composed
    simp only [read, chosen, given, loaded, bind, Except.bind] at composed
    refine ⟨profile, base, index, c, g, rfl, chosen, given, loaded, ?_⟩
    exact (Except.ok.inj composed).symm
  · rintro ⟨profile, base, index, c, g, read, chosen, given, loaded, rfl⟩
    unfold compose
    simp only [read, chosen, given, loaded, bind, Except.bind]
    rfl

/-- A request that has all it needs: its profile can be read and has texts for ids and paths, there
    is an index other than zero and a computer, and its own subtasks are ids with paths. -/
structure Resolved (r : ComposeRequest) (config : Config) (t : FileTree) where
  profile : Profile
  /-- The directory that the paths of the profile start from. -/
  base : Path
  index : UInt32
  computer : String
  /-- The ids and paths of the profile. -/
  files : List (String × String)
  /-- The ids and paths of the request itself. -/
  words : List (String × String)
  read : r.loadProfile t = .ok (profile, base)
  chosen : (r.index <|> profile.index).getD config.firstTaskIndex = index
  positive : index ≠ 0
  target : (r.computer <|> profile.computer) = some computer
  texts : profile.subtasks.map (fun entry => (entry.1.text?, entry.2.text?)) =
    files.map fun file => (some file.1, some file.2)
  joined : r.subtasks = words.map fun word => word.1 ++ "=" ++ word.2
  wellFormed : ∀ word ∈ words, word.1 ≠ "" ∧ '=' ∉ word.1.toList ∧ word.2 ≠ ""

namespace Resolved

variable {r : ComposeRequest} {config : Config} {t : FileTree}

/-- The credentials that the request comes to. -/
def credentials (s : r.Resolved config t) : Credentials :=
  ⟨s.computer, (r.username <|> s.profile.username).getD "",
    (r.password <|> s.profile.password).getD ""⟩

/-- The commands that load what the request names. -/
def commands (s : r.Resolved config t) : List Command :=
  s.files.map (fun file => .subtask file.1 (s.base.join (Path.ofString file.2)).display)
    ++ (r.subtaskDirectory.map .subtaskDir).toList
    ++ s.words.map (fun word => .subtask word.1 word.2)

variable (s : r.Resolved config t)

theorem spelled_base : s.base.Spelled := by
  have read := s.read
  unfold loadProfile at read
  split at read
  · rw [← (Prod.mk.inj (Except.ok.inj read)).2]
    exact Path.spelled_empty
  · next text _ =>
      cases loaded : Profile.load t (Path.ofString text) with
      | error e => simp [loaded, bind, Except.bind] at read
      | ok profile =>
          simp only [loaded, bind, Except.bind, pure, Except.pure] at read
          rw [← (Prod.mk.inj (Except.ok.inj read)).2]
          exact (Path.spelled_ofString text).directory

/-! ## Loading -/

theorem addFiles_eq (g : Registry) (pattern : String) :
    addFiles t g (s.files.map fun file => (file.1, s.base.join (Path.ofString file.2))) =
      g.loadEach t pattern
        (s.files.map fun file => .subtask file.1 (s.base.join (Path.ofString file.2)).display) := by
  have typed (path : String) : Path.ofString (s.base.join (Path.ofString path)).display =
      s.base.join (Path.ofString path) :=
    (s.spelled_base.join (Path.spelled_ofString path)).ofString_display
  simp only [addFiles, Registry.loadEach, List.foldlM_map, Registry.load, typed]

theorem addWords_eq (g : Registry) (pattern : String) :
    addWords t g r.subtasks =
      g.loadEach t pattern (s.words.map fun word => .subtask word.1 word.2) := by
  have asked : AskFor r.subtasks (s.words.map fun word => (word.1, Path.ofString word.2)) := by
    rw [s.joined, AskFor, List.forall₂_map_left_iff, List.forall₂_map_right_iff, List.forall₂_same]
    intro word member
    obtain ⟨named, bare, filed⟩ := s.wellFormed word member
    exact splitSubtask_of named bare filed
  rw [addWords_of_askFor asked]
  simp only [addFiles, Registry.loadEach, List.foldlM_map, Registry.load]

theorem registry_eq :
    r.registry t s.profile s.base config.fragmentGlob =
      Registry.empty.loadEach t config.fragmentGlob s.commands := by
  unfold registry commands
  rw [Profile.subtaskFiles_of_texts s.texts, List.append_assoc, Registry.loadEach_append,
    ← s.addFiles_eq]
  change addFiles t .empty _ >>= _ = _
  congr 1
  funext g
  rw [Registry.loadEach_append]
  cases r.subtaskDirectory with
  | none => exact s.addWords_eq g config.fragmentGlob
  | some directory =>
      simp only [Option.map_some, Option.toList_some, Registry.loadEach, List.foldlM_cons,
        List.foldlM_nil, Registry.load, bind_pure]
      congr 1
      funext g'
      exact s.addWords_eq g' config.fragmentGlob

/-! ## Authoring -/

/-- The session of a task that has its credentials. -/
def session : Session :=
  (Session.started s.index).given s.credentials

theorem compose_eq :
    r.compose config t =
      (Registry.empty.loadEach t config.fragmentGlob s.commands).map fun g =>
        s.session.task s.index g config.escapeCredentials := by
  have index : r.taskIndex s.profile config = .ok s.index := by
    simp only [taskIndex, s.chosen, if_neg s.positive]
  have given : r.credentials s.profile = .ok s.credentials := by
    simp only [ComposeRequest.credentials, s.target]
    rfl
  unfold compose
  rw [s.read]
  simp only [bind, Except.bind, index, given, s.registry_eq]
  cases Registry.empty.loadEach t config.fragmentGlob s.commands with
  | error e => rfl
  | ok g => exact congrArg (Except.mapError SessionError.toDeskError) (author_eq ..)

end Resolved

theorem fst_run (r : ComposeRequest) (config : Config) (t : FileTree) (stamp : Audit.Stamp) :
    (r.run config t stamp).1 = r.compose config t := by
  unfold run
  cases r.compose config t <;> rfl

end ComposeRequest

end RemoteDesk
