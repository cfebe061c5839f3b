import RemoteDesk.Proofs.Compose
import RemoteDesk.Proofs.Shell.Passwords

/-! # Passwords stay out of the audit log

A run of the shell and a composition hand the log the same deeds whatever the passwords are. For a
composition the password comes from the request or from its profile; neither decides whether the
task is composed, and what is recorded of the task is its key and its subtasks.
-/

namespace RemoteDesk

def Profile.veiled (p : Profile) : Profile :=
  { p with password := none }

namespace ComposeRequest

/-- The profile of a request without its password, unless it cannot be loaded. -/
def veiledProfile? (r : ComposeRequest) (t : FileTree) : Option (Profile × Path) :=
  (r.loadProfile t).toOption.map (Prod.map Profile.veiled id)

/-- The request with its password taken away. -/
def veiled (r : ComposeRequest) : ComposeRequest :=
  { r with password := none }

variable {r r' : ComposeRequest} {p p' : Profile} {t t' : FileTree}

/-! ## Loading -/

section Loading

open Registry

variable {g g' : Registry}

theorem bind_of_ids {x x' : Except DeskError Registry} {k k' : Registry → Except DeskError Registry}
    (first : x'.map ids = x.map ids)
    (rest : ∀ g g' : Registry, g'.ids = g.ids → (k' g').map ids = (k g).map ids) :
    (x' >>= k').map ids = (x >>= k).map ids := by
  rcases cases_of_map_eq first with ⟨e, rfl, rfl⟩ | ⟨g', g, rfl, rfl, same⟩
  · rfl
  · exact rest g g' same

/-- If each of a row of steps leads to the same ids from the same ids, so does the row. -/
theorem foldlM_of_ids {α : Type} {f f' : Registry → α → Except DeskError Registry}
    (step : ∀ g g' : Registry, g'.ids = g.ids → ∀ x, (f' g' x).map ids = (f g x).map ids)
    (same : g'.ids = g.ids) (items : List α) :
    (items.foldlM f' g').map ids = (items.foldlM f g).map ids := by
  induction items generalizing g g' with
  | nil => exact congrArg Except.ok same
  | cons x rest ih =>
      rw [List.foldlM_cons, List.foldlM_cons]
      exact bind_of_ids (step g g' same x) fun _ _ known => ih known

theorem addWords_of_outline (trees : t'.outline = t.outline) (same : g'.ids = g.ids)
    (words : List String) : (addWords t' g' words).map ids = (addWords t g words).map ids := by
  refine foldlM_of_ids (fun g g' same word => ?_) same words
  cases splitSubtask word with
  | error e => rfl
  | ok file => exact loadFile_of_outline trees same file.1 file.2

/-- The ids of the subtasks do not depend on passwords. -/
theorem registry_of_veiled (requests : r'.veiled = r.veiled) (profiles : p'.veiled = p.veiled)
    (trees : t'.outline = t.outline) (base : Path) (pattern : String) :
    (r'.registry t' p' base pattern).map ids = (r.registry t p base pattern).map ids := by
  have words := fun g g' same => @addWords_of_outline t t' g g' trees same r.subtasks
  have files : p'.veiled.subtaskFiles base = p.veiled.subtaskFiles base := by rw [profiles]
  change p'.subtaskFiles base = p.subtaskFiles base at files
  have directory : r'.subtaskDirectory = r.subtaskDirectory :=
    congrArg (·.subtaskDirectory) requests
  have subtasks : r'.subtasks = r.subtasks := congrArg (·.subtasks) requests
  unfold registry
  rw [files, directory, subtasks]
  cases p.subtaskFiles base with
  | error e => rfl
  | ok files =>
      refine bind_of_ids (foldlM_of_ids ?_ rfl files) fun g g' same => ?_
      · exact fun g g' same file => loadFile_of_outline trees same file.1 file.2
      · cases r.subtaskDirectory with
        | none => exact words g g' same
        | some directory =>
            have loaded := loadDirectory_of_outline trees same (Path.ofString directory) pattern
            simp only
            generalize g.loadDirectory t (Path.ofString directory) pattern = x at loaded ⊢
            generalize g'.loadDirectory t' (Path.ofString directory) pattern = x' at loaded ⊢
            obtain ⟨answer, h⟩ := x
            obtain ⟨answer', h'⟩ := x'
            obtain ⟨rfl, known⟩ : answer' = answer ∧ h'.ids = h.ids := Prod.mk.inj loaded
            refine bind_of_ids ?_ words
            cases answer' with
            | error e => rfl
            | ok loaded => exact congrArg Except.ok known

end Loading

/-! ## Composing -/

theorem taskIndex_of_veiled (requests : r'.veiled = r.veiled) (profiles : p'.veiled = p.veiled)
    (config : Config) : r'.taskIndex p' config = r.taskIndex p config := by
  change r'.veiled.taskIndex p'.veiled config = r.veiled.taskIndex p.veiled config
  rw [requests, profiles]

/-- Whether there are credentials does not depend on passwords. -/
theorem credentials_of_veiled (requests : r'.veiled = r.veiled) (profiles : p'.veiled = p.veiled) :
    (r'.credentials p').map Credentials.veiled = (r.credentials p).map Credentials.veiled := by
  have veiled (r : ComposeRequest) (p : Profile) : (r.credentials p).map Credentials.veiled =
      (r.veiled.credentials p.veiled).map Credentials.veiled := by
    unfold credentials ComposeRequest.veiled Profile.veiled
    simp only
    cases r.computer <|> p.computer <;> rfl
  rw [veiled r', requests, profiles, ← veiled]

/-- Requests and profiles that differ in passwords at most come to the same task, but for its
    script, or both to none. -/
theorem compose_of_veiled (requests : r'.veiled = r.veiled) (trees : t'.outline = t.outline)
    (profiles : r'.veiledProfile? t' = r.veiledProfile? t) (config : Config) :
    (r'.compose config t').toOption.map deed = (r.compose config t).toOption.map deed := by
  unfold compose
  unfold veiledProfile? at profiles
  generalize r.loadProfile t = x at profiles ⊢
  generalize r'.loadProfile t' = x' at profiles ⊢
  rcases x with e | ⟨p, base⟩ <;> rcases x' with e' | ⟨p', base'⟩
  · rfl
  · cases profiles
  · cases profiles
  · obtain ⟨profile, rfl⟩ : p'.veiled = p.veiled ∧ base' = base :=
      Prod.mk.inj (Option.some.inj profiles)
    simp only [bind, Except.bind, taskIndex_of_veiled requests profile]
    cases r.taskIndex p config with
    | error e => rfl
    | ok index =>
        simp only
        rcases cases_of_map_eq (credentials_of_veiled requests profile) with
          ⟨e, second, first⟩ | ⟨c', c, second, first, -⟩
        · rw [first, second]
        · simp only [first, second]
          rcases cases_of_map_eq
              (registry_of_veiled requests profile trees base' config.fragmentGlob) with
            ⟨e, second, first⟩ | ⟨g', g, second, first, known⟩
          · rw [first, second]
          · simp only [first, second]
            rw [author_eq, author_eq]
            simp only [Except.mapError, Except.toOption, Option.map_some, deed, Session.task,
              Script.assemble, known]

/-- The event that composing adds to the audit log, unless it fails or the log refuses the event. -/
def event? (r : ComposeRequest) (config : Config) (t : FileTree) (stamp : Audit.Stamp) :
    Option Audit.Event := do
  let task ← (r.run config t stamp).1.toOption
  let file ← config.eventsFile
  let event : Audit.Event := ⟨stamp, deed task⟩
  if (Audit.append t (Path.ofString file) event).1.isOk then some event else none

/-- Adding that event is all that composing does to files. -/
theorem event?_eq_some_iff {config : Config} {stamp : Audit.Stamp} {e : Audit.Event} :
    r.event? config t stamp = some e ↔
      ∃ task file, (r.run config t stamp).1 = .ok task ∧ config.eventsFile = some file ∧
        e = ⟨stamp, deed task⟩ ∧
        Audit.append t (Path.ofString file) e = (.ok (), (r.run config t stamp).2) := by
  constructor
  · intro added
    obtain ⟨task, done, added⟩ := Option.bind_eq_some_iff.mp added
    obtain ⟨file, log, added⟩ := Option.bind_eq_some_iff.mp added
    obtain ⟨taken, same⟩ := Option.ite_none_right_eq_some.mp added
    obtain rfl := Option.some.inj same
    cases composed : r.compose config t with
    | error cause => simp [fst_run, composed, Except.toOption] at done
    | ok task' =>
        obtain rfl : task' = task := by simpa [fst_run, composed, Except.toOption] using done
        have files : (r.run config t stamp).2 =
            (Audit.append t (Path.ofString file) ⟨stamp, deed task'⟩).2 := by
          simp only [run, composed, note, log]
        refine ⟨task', file, by rw [fst_run, composed], log, rfl, ?_⟩
        rw [files]
        rcases appended : Audit.append t (Path.ofString file) ⟨stamp, deed task'⟩ with
          ⟨cause | ⟨⟩, t'⟩
        · rw [appended] at taken
          cases taken
        · rfl
  · rintro ⟨task, file, done, log, rfl, added⟩
    simp only [event?, done, log, Except.toOption, Option.bind_eq_bind, Option.bind_some, added]
    rfl

theorem event?_of_veiled (requests : r'.veiled = r.veiled) (trees : t'.outline = t.outline)
    (profiles : r'.veiledProfile? t' = r.veiledProfile? t) (config : Config)
    (stamp stamp' : Audit.Stamp) :
    (r'.event? config t' stamp').map (·.deed) = (r.event? config t stamp).map (·.deed) := by
  have composed := compose_of_veiled requests trees profiles config
  unfold event?
  rw [fst_run, fst_run]
  generalize (r.compose config t).toOption = x at composed ⊢
  generalize (r'.compose config t').toOption = x' at composed ⊢
  rcases x with _ | task <;> rcases x' with _ | task'
  · rfl
  · cases composed
  · cases composed
  · cases config.eventsFile with
    | none => rfl
    | some file =>
        have deeds : deed task' = deed task := Option.some.inj composed
        have taken := congrArg (·.1.isOk) <| Audit.append_of_outline trees (Path.ofString file)
          ⟨stamp, deed task⟩ ⟨stamp', deed task'⟩
        simp only [Option.bind_eq_bind, Option.bind_some]
        simp only [Prod.map_fst, id_eq] at taken
        simp only [taken]
        split
        · exact congrArg some deeds
        · rfl

/-- A profile that names no subtasks, field by field. -/
theorem veiledProfile?_of_childless {computer username : Option String} {index : Option UInt32}
    {base : Path}
    (fields : (r.loadProfile t).toOption.map (fun found =>
      (found.1.computer, found.1.username, found.1.index, found.1.subtasks.isEmpty, found.2)) =
        some (computer, username, index, true, base)) :
    r.veiledProfile? t = some (⟨computer, username, none, index, []⟩, base) := by
  obtain ⟨⟨p, base'⟩, loaded, same⟩ := Option.map_eq_some_iff.mp fields
  simp only [Prod.mk.injEq, List.isEmpty_iff] at same
  obtain ⟨rfl, rfl, rfl, childless, rfl⟩ := same
  rw [veiledProfile?, loaded, ← childless]
  rfl

end ComposeRequest

open Desk Shell

/-- Passwords never get into the audit log. If the output refuses nothing, two runs of the shell
    whose operators differ only in what they answer to the questions for a password record the same
    actions on the same tasks with the same details, and so do two compositions whose requests and
    profiles differ only in the password. Stamps may differ, and so may what the disk leaves of texts
    whose writing it breaks off. -/
theorem log_ignores_passwords :
    (∀ (config : Config) (color : Bool) (tree : FileTree) (faults faults' : List (Option DiskFault))
      (operator operator' : Operator) (sink : Sink) (stamp stamp' : Audit.Stamp)
      (readings : List Reading),
      let start := opened config color tree faults operator sink stamp
      let start' := opened config color tree faults' operator' sink stamp'
      sink.Accepts → remains faults' = remains faults →
      operator.Twins (questions start readings) operator' →
      (run start' readings).desk.recorded.map (·.deed) =
        (run start readings).desk.recorded.map (·.deed)) ∧
    ∀ (config : Config) (r r' : ComposeRequest) (tree tree' : FileTree)
      (stamp stamp' : Audit.Stamp),
      r'.veiled = r.veiled → tree'.outline = tree.outline →
      r'.veiledProfile? tree' = r.veiledProfile? tree →
      (r'.event? config tree' stamp').map (·.deed) = (r.event? config tree stamp).map (·.deed) := by
  constructor
  · intro config color tree faults faults' operator operator' sink stamp stamp' readings start
      start' accepts same twins
    have differ : Desk.Twins (questions start readings) start start' :=
      ⟨rfl, rfl, rfl, rfl, rfl, same, twins, rfl, accepts, accepts⟩
    exact deeds_of_twins differ
  · intro config r r' tree tree' stamp stamp' requests trees profiles
    exact ComposeRequest.event?_of_veiled requests trees profiles config stamp stamp'

/-- Two tasks with other passwords, one of them in a script, and a composition where a password of
    the request takes the place of the one in its profile. -/
theorem log_ignores_passwords_of_two_tasks :
    ∃ (config : Config) (operator operator' : Operator) (readings : List Reading)
      (start start' : Desk) (request : ComposeRequest) (profile profile' : FileTree),
      config = { Config.default with eventsFile := some "log" } ∧
      operator = Operator.scripted
        [.ok "host", .ok "user", .ok "one", .ok "host", .ok "user", .ok "two"] [] ∧
      operator' = Operator.scripted
        [.ok "host", .ok "user", .ok "three", .ok "host", .ok "user", .ok "four"] [] ∧
      readings = [.line "new", .line "credentials", .line "complete", .line "new",
        .line "credentials"] ∧
      start = opened config false ⟨[], []⟩ [] operator .unlimited ⟨⟨0, 0, 0⟩, "me"⟩ ∧
      start' = opened config false ⟨[], []⟩ [] operator' .unlimited ⟨⟨0, 0, 0⟩, "you"⟩ ∧
      request = { ComposeRequest.empty with profile := some "p" } ∧
      profile = ⟨[([Utf8.encode "p"],
        .file (Utf8.encode "computer: host\npassword: one\n"))], []⟩ ∧
      profile' = ⟨[([Utf8.encode "p"],
        .file (Utf8.encode "computer: host\npassword: two\n"))], []⟩ ∧
      (run start' readings).desk.session ≠ (run start readings).desk.session ∧
      (run start readings).desk.recorded.length = 5 ∧
      (run start' readings).desk.recorded.map (·.deed) =
        (run start readings).desk.recorded.map (·.deed) ∧
      (request.event? config profile ⟨⟨0, 0, 0⟩, "me"⟩).isSome ∧
      (ComposeRequest.event? { request with password := some "three" } config profile'
        ⟨⟨0, 0, 0⟩, "you"⟩).map (·.deed) =
          (request.event? config profile ⟨⟨0, 0, 0⟩, "me"⟩).map (·.deed) := by
  obtain ⟨config, settings⟩ : ∃ c, c = { Config.default with eventsFile := some "log" } :=
    ⟨_, rfl⟩
  obtain ⟨operator, answers⟩ : ∃ o, o = Operator.scripted
      [.ok "host", .ok "user", .ok "one", .ok "host", .ok "user", .ok "two"] [] := ⟨_, rfl⟩
  obtain ⟨operator', answers'⟩ : ∃ o, o = Operator.scripted
      [.ok "host", .ok "user", .ok "three", .ok "host", .ok "user", .ok "four"] [] := ⟨_, rfl⟩
  obtain ⟨readings, typed⟩ : ∃ r : List Reading, r = [.line "new", .line "credentials",
      .line "complete", .line "new", .line "credentials"] := ⟨_, rfl⟩
  obtain ⟨start, opening⟩ : ∃ d, d = opened config false ⟨[], []⟩ [] operator .unlimited
      ⟨⟨0, 0, 0⟩, "me"⟩ := ⟨_, rfl⟩
  obtain ⟨start', opening'⟩ : ∃ d, d = opened config false ⟨[], []⟩ [] operator' .unlimited
      ⟨⟨0, 0, 0⟩, "you"⟩ := ⟨_, rfl⟩
  obtain ⟨request, wishes⟩ : ∃ r, r = { ComposeRequest.empty with profile := some "p" } := ⟨_, rfl⟩
  obtain ⟨profile, files⟩ : ∃ t : FileTree, t = ⟨[([Utf8.encode "p"],
      .file (Utf8.encode "computer: host\npassword: one\n"))], []⟩ := ⟨_, rfl⟩
  obtain ⟨profile', files'⟩ : ∃ t : FileTree, t = ⟨[([Utf8.encode "p"],
      .file (Utf8.encode "computer: host\npassword: two\n"))], []⟩ := ⟨_, rfl⟩
  have put : questions start readings =
      [Session.computerQuestion, Session.usernameQuestion, Session.passwordQuestion,
        Session.computerQuestion, Session.usernameQuestion, Session.passwordQuestion] := by
    rw [opening, settings, answers, typed]
    decide +kernel
  have twins : operator.Twins (questions start readings) operator' := by
    rw [put, answers, answers']
    refine ⟨fun n => ?_, rfl, rfl, rfl, rfl⟩
    match n with
    | 0 | 1 | 3 | 4 => exact .inl rfl
    | 2 => exact .inr ⟨rfl, "one", "three", rfl, rfl⟩
    | 5 => exact .inr ⟨rfl, "two", "four", rfl, rfl⟩
    | n + 6 => exact .inl rfl
  obtain ⟨shell, compose⟩ := log_ignores_passwords
  refine ⟨config, operator, operator', readings, start, start', request, profile, profile',
    settings, answers, answers', typed, opening, opening', wishes, files, files',
    ?_, ?_, ?_, ?_, ?_⟩
  · rw [opening, opening', settings, answers, answers', typed]
    decide +kernel
  · rw [opening, settings, answers, typed]
    decide +kernel
  · rw [opening, opening']
    rw [opening] at twins
    exact shell config false ⟨[], []⟩ [] [] operator operator' .unlimited _ _ readings
      (fun _ _ _ => rfl) rfl twins
  · rw [wishes, settings, files]
    decide +kernel
  · refine compose config request _ profile profile' _ _ rfl ?_ ?_
    · rw [files, files']
      simp only [FileTree.outline, List.map_cons, List.map_nil, Entry.outline, gist_encode]
    · have childless := fun r t =>
        @ComposeRequest.veiledProfile?_of_childless r t (some "host") none none .empty
      rw [childless _ profile' (by rw [wishes, files']; decide +kernel),
        childless request profile (by rw [wishes, files]; decide +kernel)]

end RemoteDesk
