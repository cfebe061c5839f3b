import RemoteDesk.Proofs.Shell.Announced

/-! # The log lists the subtasks that wait

While the log takes what it is handed, whatever it lists as waiting does wait in the registry. The two
lists are the same at every desk exactly if every round announces what it registers. Only a directory
command that fails does not, and the next completion makes up for it by clearing both.
-/

namespace RemoteDesk.Shell

open Audit Desk Desk.Action

namespace Round

/-- What the round hands to the log. -/
def handed (x : Round) : List (Desk × Deed) :=
  x.reading.command?.elim [] (Shell.handed x.before)

/-- The log takes all of it. -/
def heeded (x : Round) : Bool :=
  x.handed.all fun p => p.1.logs p.2

/-- Every subtask that waits after the round has waited before it or is announced by it. -/
def Announces (x : Round) : Prop :=
  ∀ id ∈ x.after.registry.ids, id ∈ x.before.registry.ids ∨ id ∈ announced x.handed

end Round

/-- The log and the registry list the same subtasks in the same order. -/
def Accounted (d : Desk) : Prop :=
  waiting d.recorded = d.registry.ids

/-! ## One round -/

theorem recorded_next {d : Desk} (coherent : d.session.Coherent) (r : Reading) :
    (next d r).recorded = d.recorded ++ taken (Round.mk d r).handed := by
  rw [(next_echoes d r).recorded]
  unfold carried Round.handed
  cases r.command? with
  | none => exact (List.append_nil _).symm
  | some command => exact recorded_execute coherent command

theorem waiting_next {d : Desk} (coherent : d.session.Coherent) {r : Reading}
    (heeded : (Round.mk d r).heeded) :
    waiting (next d r).recorded =
      ((Round.mk d r).handed.map (·.2)).foldl await (waiting d.recorded) := by
  have all : (Round.mk d r).handed.filter (fun p => p.1.logs p.2) = (Round.mk d r).handed :=
    List.filter_eq_self.mpr (List.all_eq_true.mp heeded)
  rw [recorded_next coherent, waiting_append, taken, all, List.map_map]
  rfl

/-- A turn that is no command leaves the subtasks alone, and any other does what its command does. -/
theorem next_assigns (d : Desk) (r : Reading) :
    ((Round.mk d r).handed = [] ∧ (next d r).registry = d.registry) ∨
    ∃ command, r.command? = some command ∧ (Round.mk d r).handed = handed d command ∧
      Assigns d command (next d r) := by
  have echoed := next_echoes d r
  unfold carried at echoed
  unfold Round.handed
  cases brings : r.command? with
  | none =>
      rw [brings] at echoed
      exact .inl ⟨rfl, echoed.alike.registry⟩
  | some command =>
      rw [brings] at echoed
      refine .inr ⟨command, rfl, rfl, ?_⟩
      cases execute_assigns d command with
      | clears registry ends => exact .clears (echoed.alike.registry.trans registry) ends
      | adds registered registry first all goes =>
          refine .adds registered ?_ first all goes
          rw [echoed.alike.registry, registry]

theorem foldl_await_of_ends {deeds : List Deed} (ends : deeds.map (·.action) = [.complete])
    (waiting : List String) : deeds.foldl await waiting = [] := by
  obtain ⟨x, rest, rfl, action, alone⟩ := List.map_eq_cons_iff.mp ends
  obtain rfl := List.map_eq_nil_iff.mp alone
  exact if_pos action

theorem foldl_await_handed {handed : List (Desk × Deed)}
    (goes : ∀ p ∈ handed, p.2.action ≠ .complete) (waiting : List String) :
    (handed.map (·.2)).foldl await waiting = (announced handed).foldl added waiting := by
  rw [foldl_await, List.filterMap_map]
  · rfl
  · intro x member
    obtain ⟨p, within, rfl⟩ := List.mem_map.mp member
    exact goes p within

/-- Where the log and the registry have agreed, they go on to if the round announces what it
    registers, and not otherwise. -/
theorem accounted_next_iff {d : Desk} (coherent : d.session.Coherent) {r : Reading}
    (heeded : (Round.mk d r).heeded) (accounted : Accounted d) :
    Accounted (next d r) ↔ (Round.mk d r).Announces := by
  unfold Accounted Round.Announces
  rw [waiting_next coherent heeded, accounted]
  change _ ↔ ∀ id ∈ (next d r).registry.ids, _
  rcases next_assigns d r with ⟨silent, registry⟩ | ⟨command, -, same, assigns⟩
  · rw [silent, registry]
    exact iff_of_true rfl fun id waits => .inl waits
  · rw [same]
    cases assigns with
    | clears registry ends =>
        rw [registry]
        refine iff_of_true (foldl_await_of_ends ?_ _) fun id waits => by cases waits
        rw [List.map_map]
        exact ends
    | adds registered registry first all goes =>
        -- What is registered and not announced is the rest of the row that is registered.
        obtain ⟨rest, rfl⟩ := first
        rw [foldl_await_handed goes, registry, List.foldl_append, eq_comm, foldl_added_eq_self]
        simp only [mem_foldl_added]
        constructor
        · intro known id waits
          rcases waits with announced | more
          · exact announced
          · exact known id more
        · intro known id more
          exact known id (.inr more)

/-- Only a directory command that fails registers what it does not announce. -/
theorem fails_of_not_announces {d : Desk} {r : Reading} (silent : ¬ (Round.mk d r).Announces) :
    ∃ directory e, r.command? = some (.subtaskDir directory) ∧
      ((addDirectory (Path.ofString directory)).on d).1 = .error e := by
  unfold Round.Announces at silent
  change ¬ ∀ id ∈ (next d r).registry.ids, _ at silent
  rcases next_assigns d r with ⟨-, registry⟩ | ⟨command, brings, same, assigns⟩
  · rw [registry] at silent
    exact absurd (fun id waits => .inl waits) silent
  · cases assigns with
    | clears registry ends =>
        rw [registry] at silent
        exact absurd (fun id waits => by cases waits) silent
    | adds registered registry first all goes =>
        rcases all with rfl | ⟨directory, e, rfl, failed⟩
        · rw [registry, same] at silent
          exact absurd (fun id waits => mem_foldl_added.mp waits) silent
        · exact ⟨directory, e, brings, failed⟩

theorem waiting_subset_next {d : Desk} (coherent : d.session.Coherent) {r : Reading}
    (heeded : (Round.mk d r).heeded) (listed : waiting d.recorded ⊆ d.registry.ids) :
    waiting (next d r).recorded ⊆ (next d r).registry.ids := by
  rw [waiting_next coherent heeded]
  rcases next_assigns d r with ⟨silent, registry⟩ | ⟨command, -, same, assigns⟩
  · rw [silent, registry]
    exact listed
  · rw [same]
    cases assigns with
    | clears registry ends =>
        rw [foldl_await_of_ends (by rw [List.map_map]; exact ends)]
        exact List.nil_subset _
    | adds registered registry first all goes =>
        rw [foldl_await_handed goes, registry]
        intro id waits
        rw [mem_foldl_added] at waits ⊢
        exact waits.imp (fun h => listed h) (fun h => first.subset h)

/-- A completion names what waits, and then nothing waits any more, in the registry or the log. -/
theorem cleared_of_task {d : Desk} (coherent : d.session.Coherent) {r : Reading}
    (heeded : (Round.mk d r).heeded) {task : CompletedTask} (made : task? d r = some task) :
    task.subtasks = d.registry.ids ∧ (next d r).registry.ids = [] ∧
      waiting (next d r).recorded = [] := by
  have effect := (turn_leads d r).effect
  rw [made] at effect
  cases effect with
  | completes _ completed echoed =>
      have registry : (next d r).registry = .empty := (alike_of_completes echoed).registry
      have handed : (Round.mk d r).handed =
          [(d, (Transition.complete task.index task.subtasks).deed)] := by
        rw [Round.handed, (task?_eq_some.mp made).1, Option.elim_some, Shell.handed, accepted?,
          completed]
        · rfl
        all_goals simp
      obtain ⟨index, -, -, rfl⟩ := completed?_eq_some completed
      refine ⟨rfl, by rw [registry]; rfl, ?_⟩
      rw [waiting_next coherent heeded, handed]
      exact foldl_await_of_ends rfl _

/-! ## Rows of rounds -/

/-- From a desk where the log and the registry agree, they agree at every later desk exactly if every
    round on the way announces what it registers. -/
theorem accounted_iff {d : Desk} (coherent : d.session.Coherent) (accounted : Accounted d)
    {readings : List Reading} (heeded : ∀ x ∈ rounds d readings, x.heeded) :
    (∀ heardSoFar, heardSoFar <+: readings → Accounted (stand d heardSoFar)) ↔
      ∀ x ∈ rounds d readings, x.Announces := by
  induction readings generalizing d with
  | nil =>
      simp only [rounds, List.prefix_nil, forall_eq, List.not_mem_nil, false_imp_iff,
        implies_true, iff_true]
      exact accounted
  | cons r rest ih =>
      have onward : (next d r).session.Coherent := (turn_leads d r).effect.coherent coherent
      simp only [rounds, List.mem_cons, forall_eq_or_imp] at heeded ⊢
      have step := accounted_next_iff coherent heeded.1 accounted
      constructor
      · intro all
        have first : Accounted (next d r) := all [r] (List.prefix_append [r] rest)
        refine ⟨step.mp first, (ih onward first heeded.2).mp fun heardSoFar begins => ?_⟩
        exact all (r :: heardSoFar) ((List.prefix_cons_inj r).mpr begins)
      · rintro ⟨announces, later⟩ heardSoFar begins
        have first := step.mpr announces
        rcases List.prefix_cons_iff.mp begins with rfl | ⟨others, rfl, begins⟩
        · exact accounted
        · exact (ih onward first heeded.2).mpr later others ((List.prefix_cons_inj r).mp begins)

theorem waiting_subset_stand {d : Desk} (coherent : d.session.Coherent)
    (listed : waiting d.recorded ⊆ d.registry.ids) {readings : List Reading}
    (heeded : ∀ x ∈ rounds d readings, x.heeded) :
    waiting (stand d readings).recorded ⊆ (stand d readings).registry.ids := by
  induction readings generalizing d with
  | nil => exact listed
  | cons r rest ih =>
      simp only [rounds, List.mem_cons, forall_eq_or_imp] at heeded
      exact ih ((turn_leads d r).effect.coherent coherent)
        (waiting_subset_next coherent heeded.1 listed) heeded.2

/-! ## Every desk -/

/-- If the log takes everything it is handed, it lists only subtasks that wait in the registry, each
    announced since the last completion. It lists them all, in order, at every desk that a shell
    comes to exactly if every round announces what it registers, and a round that does not is a
    directory command that fails. A completion names the subtasks of the registry and clears both.
    The last part is for whole runs: they end with the log and the registry that their readings lead
    to. -/
theorem log_lists_waiting_subtasks (config : Config) (color : Bool) (tree : FileTree)
    (faults : List (Option DiskFault)) (operator : Operator) (sink : Sink) (stamp : Audit.Stamp)
    (readings : List Reading)
    (heeded : ∀ x ∈ rounds (introduced (opened config color tree faults operator sink stamp))
      readings, x.heeded) :
    let start := opened config color tree faults operator sink stamp
    let done := rounds (introduced start) readings
    let d := stand (introduced start) readings
    ((∀ heardSoFar, heardSoFar <+: readings → Accounted (stand (introduced start) heardSoFar)) ↔
      ∀ x ∈ done, x.Announces) ∧
    (∀ x ∈ done, ¬ x.Announces → ∃ directory e,
      x.reading.command? = some (.subtaskDir directory) ∧
        ((addDirectory (Path.ofString directory)).on x.before).1 = .error e) ∧
    (∀ id ∈ waiting d.recorded, id ∈ d.registry.ids ∧ Announced d.recorded id) ∧
    (∀ x ∈ done, ∀ task, x.task? = some task →
      task.subtasks = x.before.registry.ids ∧ x.after.registry.ids = [] ∧
        waiting x.after.recorded = [] ∧
        (Accounted x.before → ∀ id ∈ task.subtasks, Announced x.before.recorded id)) ∧
    (∀ typed, (run start typed).exchanges.map (·.reading) = readings →
      (run start typed).desk.recorded = d.recorded ∧
      (run start typed).desk.registry = d.registry) := by
  intro start done d
  have echoed := introduced_echoed start
  have coherent : (introduced start).session.Coherent := by
    rw [echoed.alike.session]
    exact .new
  have accounted : Accounted (introduced start) := by
    rw [Accounted, echoed.recorded, echoed.alike.registry]
    rfl
  refine ⟨accounted_iff coherent accounted heeded, ?_, ?_, ?_, ?_⟩
  · exact fun x _ silent => fails_of_not_announces silent
  · intro id waits
    have listed := waiting_subset_stand coherent (accounted ▸ List.Subset.refl _) heeded
    exact ⟨listed waits, announced_of_waiting waits⟩
  · intro x member task made
    obtain ⟨past, later, split⟩ := List.append_of_mem member
    obtain ⟨heardSoFar, -, before⟩ := rounds_split split
    have sound : x.before.session.Coherent := by
      rw [before]
      exact coherent_stand coherent heardSoFar
    obtain ⟨names, registry, log⟩ := cleared_of_task sound (heeded x member) made
    refine ⟨names, registry, log, fun agrees id named => announced_of_waiting ?_⟩
    rw [agrees, ← names]
    exact named
  · intro typed came
    have ends := run_desk start typed
    rw [came] at ends
    exact ⟨ends.recorded, ends.alike.registry⟩

/-- A subtask, a directory and a subtask again, with a completion between the last two. -/
theorem log_lists_waiting_subtasks_after_complete :
    ∃ config tree operator readings,
      config = { Config.default with eventsFile := some "log" } ∧
      tree = ⟨[([Utf8.encode "a"], .file (Utf8.encode "A")),
        ([Utf8.encode "parts"], .directory),
        ([Utf8.encode "parts", Utf8.encode "b.au3"], .file (Utf8.encode "B"))], []⟩ ∧
      operator = Operator.scripted [.ok "host", .ok "user", .ok "word"] [] ∧
      readings = [.line "new", .line "credentials", .line "subtask a a", .line "subtask-dir parts",
        .line "complete", .line "subtask c a"] ∧
      let start := opened config false tree [] operator .unlimited ⟨⟨0, 0, 0⟩, "me"⟩
      (∀ heardSoFar, heardSoFar <+: readings → Accounted (stand (introduced start) heardSoFar)) ∧
      (stand (introduced start) (readings.take 4)).registry.ids = ["a", "b"] ∧
      waiting (stand (introduced start) readings).recorded = ["c"] := by
  obtain ⟨config, settings⟩ : ∃ c, c = { Config.default with eventsFile := some "log" } :=
    ⟨_, rfl⟩
  obtain ⟨tree, files⟩ : ∃ t : FileTree, t = ⟨[([Utf8.encode "a"], .file (Utf8.encode "A")),
      ([Utf8.encode "parts"], .directory),
      ([Utf8.encode "parts", Utf8.encode "b.au3"], .file (Utf8.encode "B"))], []⟩ := ⟨_, rfl⟩
  obtain ⟨operator, answers⟩ : ∃ o, o = Operator.scripted [.ok "host", .ok "user", .ok "word"] [] :=
    ⟨_, rfl⟩
  obtain ⟨readings, typed⟩ : ∃ r : List Reading, r = [.line "new", .line "credentials",
      .line "subtask a a", .line "subtask-dir parts", .line "complete", .line "subtask c a"] :=
    ⟨_, rfl⟩
  have heeded : ∀ x ∈ rounds (introduced (opened config false tree [] operator .unlimited
      ⟨⟨0, 0, 0⟩, "me"⟩)) readings, x.heeded := by
    rw [settings, files, answers, typed]
    decide +kernel
  have announces : ∀ x ∈ rounds (introduced (opened config false tree [] operator .unlimited
      ⟨⟨0, 0, 0⟩, "me"⟩)) readings, x.Announces := by
    unfold Round.Announces
    rw [settings, files, answers, typed]
    decide +kernel
  obtain ⟨lists, -⟩ := log_lists_waiting_subtasks config false tree [] operator .unlimited
    ⟨⟨0, 0, 0⟩, "me"⟩ readings heeded
  refine ⟨config, tree, operator, readings, settings, files, answers, typed, lists.mpr announces,
    ?_, ?_⟩
  all_goals
    rw [settings, files, answers, typed]
    decide +kernel

/-- The directory fails at its second file: the first is registered, and the log does not hear of
    it. -/
theorem log_misses_first_fragment :
    ∃ start readings,
      start = opened { Config.default with eventsFile := some "log" } false Registry.threeParts []
        .unreachable .unlimited ⟨⟨0, 0, 0⟩, "me"⟩ ∧
      readings = [.line "subtask-dir parts"] ∧
      (∀ x ∈ rounds (introduced start) readings, x.heeded) ∧
      (stand (introduced start) readings).registry.ids = ["a"] ∧
      waiting (stand (introduced start) readings).recorded = [] ∧
      ¬ Accounted (stand (introduced start) readings) := by
  obtain ⟨start, opening⟩ : ∃ d, d = opened { Config.default with eventsFile := some "log" } false
      Registry.threeParts [] .unreachable .unlimited ⟨⟨0, 0, 0⟩, "me"⟩ := ⟨_, rfl⟩
  have brings : (Reading.line "subtask-dir parts").command? = some (.subtaskDir "parts") := by
    decide +kernel
  have refused : (introduced start).registry.loadDirectory (introduced start).tree
      (Path.ofString "parts") (introduced start).config.fragmentGlob =
        (.error (.invalidSubtaskId "b-c"), ⟨[("a", "A")]⟩) := by
    rw [opening]
    exact Registry.loadDirectory_threeParts
  have silent : (Round.mk (introduced start) (.line "subtask-dir parts")).handed = [] := by
    rw [Round.handed, brings, Option.elim_some]
    simp only [handed, refused]
  have coherent : (introduced start).session.Coherent := by
    rw [opening]
    exact .new
  have registry : (stand (introduced start) [.line "subtask-dir parts"]).registry.ids = ["a"] := by
    change (next (introduced start) (.line "subtask-dir parts")).registry.ids = _
    rw [(next_echoes _ _).alike.registry, carried, brings]
    change ((do addDirectory (Path.ofString "parts"); return Flow.goOn : Action Flow).on
      (introduced start)).2.registry.ids = _
    rw [on_then, on_addDirectory_of_error refused]
    rfl
  have log : waiting (stand (introduced start) [.line "subtask-dir parts"]).recorded = [] := by
    change waiting (next (introduced start) (.line "subtask-dir parts")).recorded = _
    rw [recorded_next coherent, silent, opening]
    rfl
  refine ⟨start, _, opening, rfl, ?_, registry, log, ?_⟩
  · simp only [rounds, List.mem_singleton, forall_eq, Round.heeded, silent, List.all_nil]
  · rw [Accounted, registry, log]
    decide

end RemoteDesk.Shell
