import RemoteDesk.Proofs.Shell.Keys

/-! # What the parts of a desk tell of each other

A completion changes session, counter, store and written keys one after another, with steps between
them that can fail. None of them can come between the first three: once the session has made a
script, the store has it and the counter has moved on. All other turns leave counter and store alone.
So the number of completions determines the counter and the keys of the store, and a task that is
being authored has the index of the counter until it becomes a script.
-/

namespace RemoteDesk.Shell

open Desk

/-! ## Completions -/

/-- The tasks that became scripts in a row of rounds, in order. -/
def completions (rounds : List Round) : List CompletedTask :=
  rounds.filterMap (·.task?)

theorem scripts_deliveries (rounds : List Round) :
    (deliveries rounds).map (·.script) = (completions rounds).map (·.script) := by
  unfold deliveries completions
  rw [List.map_filterMap, List.map_filterMap]
  congr 1
  funext x
  simp [Round.delivery?, Option.map_map, Function.comp_def]

theorem length_deliveries (rounds : List Round) :
    (deliveries rounds).length = (completions rounds).length := by
  simpa using congrArg List.length (scripts_deliveries rounds)

theorem keys_deliveries (rounds : List Round) :
    (deliveries rounds).map (·.script.key) = (completions rounds).map (·.script.key) := by
  simpa [Function.comp_def] using congrArg (List.map Script.key) (scripts_deliveries rounds)

/-- The first task that becomes a script has the key of the counter, however long that takes. -/
theorem key_of_first_completion {d : Desk} (indexed : Indexed d) {readings : List Reading}
    {task : CompletedTask} (first : (completions (rounds d readings)).head? = some task) :
    task.script.key = Script.taskKey d.counter.value := by
  have keys := (numbered_of_indexed indexed readings).keys
  rw [keys_deliveries, length_deliveries] at keys
  obtain ⟨rest, same⟩ := List.head?_eq_some_iff.mp first
  rw [same, List.map_cons, List.length_cons, List.range_succ_eq_map, List.map_cons] at keys
  rw [(List.cons.inj keys).1, Nat.add_zero, taskKey_eq]

/-- Either a reading brings a completion that the session accepts, or no task becomes a script. -/
theorem task?_eq_none {d : Desk} {r : Reading}
    (refused : r.command? = some .complete →
      ∃ e, (d.session.complete d.registry d.store d.config.escapeCredentials).1 = .error e) :
    task? d r = none := by
  unfold task? completed?
  split
  · next complete =>
      obtain ⟨e, failed⟩ := refused complete
      rw [failed]
      rfl
  · rfl

/-! ## The session of a desk -/

theorem Moves.coherent {d : Desk} {session : Session} (h : Moves d session)
    (coherent : d.session.Coherent) : session.Coherent := by
  cases h with
  | stays => exact coherent
  | starts idle => exact .started d.counter.value
  | captures c active => exact coherent.given active c
  | discards index active => exact .cleared rfl

theorem Effect.coherent {d d' : Desk} {task : Option CompletedTask} (h : Effect d d' task)
    (coherent : d.session.Coherent) : d'.session.Coherent := by
  cases h with
  | authors session registry operator moves alike =>
      rw [alike.session]
      exact moves.coherent coherent
  | completes task completed echoed =>
      rw [(alike_of_completes echoed).session]
      exact .cleared rfl

theorem coherent_stand {d : Desk} (coherent : d.session.Coherent) (readings : List Reading) :
    (stand d readings).session.Coherent := by
  induction readings generalizing d with
  | nil => exact coherent
  | cons r rest ih => exact ih ((turn_leads d r).effect.coherent coherent)

theorem prompt_of_active {d : Desk} {index : UInt32}
    (active : d.session.activeIndex? = some index) :
    ∃ base, d.prompt = d.palette.paint .blue ("[*] " ++ Script.taskKey index) ++ "\n" ++ base := by
  unfold prompt
  rw [active]
  exact ⟨_, rfl⟩

/-! ## Every desk -/

/-- However a shell got to a desk, and whatever failed on the way: the counter has moved on once for
    each completion until it reached the greatest index; a task that is being authored has the index
    of the counter, the prompt shows its key, and that is the key of the next completion; the store
    has the keys of all completions in order, each where it first came; only keys of the store count
    as written; and no reading moves the counter or changes the store but a completion that the
    session accepts. -/
theorem desk_coupled (config : Config) (color : Bool) (tree : FileTree)
    (faults : List (Option DiskFault)) (operator : Operator) (sink : Sink) (stamp : Audit.Stamp)
    (readings : List Reading) :
    let start := opened config color tree faults operator sink stamp
    let d := stand start readings
    let first := config.firstTaskIndex.toNat
    let count := (completions (rounds start readings)).length
    d.counter.value.toNat = min (first + count) 4294967295 ∧
    (d.session.isActive →
      d.session.taskIndex = some d.counter.value ∧
      (∃ base, d.prompt =
        d.palette.paint .blue ("[*] " ++ Script.taskKey d.counter.value) ++ "\n" ++ base) ∧
      ∀ later task, (completions (rounds d later)).head? = some task →
        task.script.key = Script.taskKey d.counter.value) ∧
    d.store.keys = ((List.range count).map fun j =>
      "RemoteDesktop_" ++ Nat.repr (min (first + j) 4294967295)).eraseDups ∧
    (∀ key ∈ d.written, key ∈ d.store.keys) ∧
    (∀ r : Reading, (r.command? = some .complete →
        ∃ e, (d.session.complete d.registry d.store d.config.escapeCredentials).1 = .error e) →
      (next d r).counter = d.counter ∧ (next d r).store = d.store) := by
  intro start d first count
  have idle : start.session.taskIndex = none := rfl
  have numbered : Numbered first (rounds start readings) d := numbered_of_rounds idle readings
  have ledger : Ledger (rounds start readings) d := ledger_of_rounds rfl rfl readings
  have coherent : d.session.Coherent := coherent_stand .new readings
  have names : d.store.keys =
      ((completions (rounds start readings)).map (·.script.key)).eraseDups := by
    rw [Store.keys, ledger.store, Catalog.names_putAll, names_entries, keys_deliveries]
  refine ⟨?_, ?_, ?_, ?_, ?_⟩
  · rw [numbered.counter, length_deliveries]
    rfl
  · intro active
    obtain ⟨index, has⟩ := Option.isSome_iff_exists.mp (coherent.indexed.trans active)
    obtain rfl := numbered.indexed index has
    refine ⟨has, prompt_of_active ?_, fun later task => key_of_first_completion numbered.indexed⟩
    rw [coherent.activeIndex?, has]
  · rw [names, ← keys_deliveries, numbered.keys, length_deliveries]
    rfl
  · intro key written
    obtain ⟨v, member, -, rfl⟩ := (ledger.written key).mp written
    rw [names, List.mem_eraseDups, ← keys_deliveries]
    exact List.mem_map_of_mem member
  · intro r refused
    have effect := (turn_leads d r).effect
    rw [task?_eq_none refused] at effect
    obtain ⟨store, counter, -⟩ := effect.books_of_none
    exact ⟨counter, store⟩

end RemoteDesk.Shell
