import RemoteDesk.Proofs.Shell.Ledger

/-! # The keys of a run

Every completed task has the index that the counter shows, and the counter moves on by one for each
of them until it reaches the greatest index, where it stays. So keys are distinct up to that index;
from there on every task has the same key, and its script takes the place of the one before.
-/

namespace RemoteDesk

/-- The greatest index that a counter reaches. -/
def Counter.greatest : Nat := 4294967295

theorem Counter.advance_toNat (c : Counter) :
    c.advance.value.toNat = min (c.value.toNat + 1) greatest := by
  have bound : c.value.toNat < 4294967296 := c.value.toNat_lt
  unfold advance greatest
  split
  · next last =>
      have reached : c.value.toNat = 4294967295 := by
        rw [last]
        rfl
      omega
  · next other =>
      have below : c.value.toNat ≠ 4294967295 := by
        intro reached
        exact other (UInt32.toNat_inj.mp reached)
      have counted : (c.value + 1).toNat = (c.value.toNat + 1) % 4294967296 := UInt32.toNat_add _ _
      dsimp only
      omega

namespace Shell

/-- The key of the task that comes `n` places after the index 0. -/
def keyAt (n : Nat) : String :=
  Script.keyStem ++ Nat.repr (min n Counter.greatest)

theorem keyAt_inj {m n : Nat} :
    keyAt m = keyAt n ↔ min m Counter.greatest = min n Counter.greatest := by
  constructor
  · intro same
    have digits := congrArg String.toList same
    simp only [keyAt, String.toList_append, List.append_cancel_left_eq, Nat.toList_repr] at digits
    have numbers := congrArg (Nat.ofDigitChars 10 · 0) digits
    simpa using numbers
  · intro same
    rw [keyAt, same, keyAt]

theorem keyAt_min (n : Nat) : keyAt (min n Counter.greatest) = keyAt n := by
  rw [keyAt_inj]
  omega

theorem taskKey_eq (index : UInt32) : Script.taskKey index = keyAt index.toNat := by
  have bound : index.toNat < 4294967296 := index.toNat_lt
  have small : min index.toNat Counter.greatest = index.toNat := by
    unfold Counter.greatest
    omega
  rw [Script.taskKey, keyAt, small]

/-! ## The counter of a run -/

/-- A session that has a task has it under the index that the counter shows. -/
def Indexed (d : Desk) : Prop :=
  ∀ index, d.session.taskIndex = some index → index = d.counter.value

theorem Moves.indexed {d : Desk} {session : Session} (h : Moves d session) (indexed : Indexed d) :
    ∀ index, session.taskIndex = some index → index = d.counter.value := by
  intro index has
  cases h with
  | stays => exact indexed index has
  | starts idle => exact (Option.some.inj has).symm
  | captures c active => exact indexed index has
  | discards other active => cases has

theorem Effect.indexed {d d' : Desk} {task : Option CompletedTask} (h : Effect d d' task)
    (indexed : Indexed d) : Indexed d' := by
  intro index has
  cases h with
  | authors session registry operator moves alike =>
      rw [alike.session] at has
      rw [alike.counter]
      exact moves.indexed indexed index has
  | completes task completed echoed =>
      rw [(alike_of_completes echoed).session] at has
      cases has

/-- A task that becomes a script does so under the key of the counter. -/
theorem key_of_task {d : Desk} (indexed : Indexed d) {r : Reading} {task : CompletedTask}
    (made : task? d r = some task) : task.script.key = keyAt d.counter.value.toNat := by
  obtain ⟨-, completed⟩ := task?_eq_some.mp made
  obtain ⟨index, has, -, rfl⟩ := completed?_eq_some completed
  rw [← indexed index has]
  exact taskKey_eq index

/-- The counter has moved on once for each delivery, and the deliveries have the keys that it showed
    on the way. -/
structure Numbered (first : Nat) (past : List Round) (d : Desk) : Prop where
  counter : d.counter.value.toNat = min (first + (deliveries past).length) Counter.greatest
  indexed : Indexed d
  keys : (deliveries past).map (·.script.key) =
    (List.range (deliveries past).length).map fun j => keyAt (first + j)

theorem Numbered.step {first : Nat} {past : List Round} {d : Desk} (h : Numbered first past d)
    (r : Reading) : Numbered first (past ++ [⟨d, r⟩]) (next d r) := by
  have effect := (turn_leads d r).effect
  have indexed : Indexed (next d r) := effect.indexed h.indexed
  cases made : task? d r with
  | none =>
      rw [made] at effect
      have same : (next d r).counter = d.counter := effect.books_of_none.2.1
      refine ⟨?_, indexed, ?_⟩ <;> rw [deliveries_snoc_none made]
      · rw [same]
        exact h.counter
      · exact h.keys
  | some task =>
      rw [made] at effect
      have moved : (next d r).counter = d.counter.advance := effect.books_of_some.2.1
      refine ⟨?_, indexed, ?_⟩ <;> rw [deliveries_snoc_some made, List.length_append,
        List.length_singleton]
      · rw [moved, Counter.advance_toNat, h.counter]
        omega
      · rw [List.map_append, h.keys, List.range_succ, List.map_append, List.map_singleton,
          List.map_singleton, key_of_task h.indexed made, h.counter, keyAt_min]

theorem Numbered.key {first : Nat} {past : List Round} {d : Desk} (h : Numbered first past d)
    {i : Nat} (within : i < (deliveries past).length) :
    (deliveries past)[i].script.key = keyAt (first + i) := by
  have same : ((deliveries past).map (·.script.key))[i]? =
      ((List.range (deliveries past).length).map fun j => keyAt (first + j))[i]? :=
    congrArg (·[i]?) h.keys
  rw [List.getElem?_map, List.getElem?_map, List.getElem?_range within,
    List.getElem?_eq_getElem within] at same
  exact Option.some.inj same

/-- As long as the indices last, no key comes twice. -/
theorem Numbered.nodup {first : Nat} {past : List Round} {d : Desk} (h : Numbered first past d)
    (lasts : first + (deliveries past).length ≤ Counter.greatest + 1) :
    ((deliveries past).map (·.script.key)).Nodup := by
  rw [h.keys]
  refine List.Nodup.map_on ?_ List.nodup_range
  intro i inside j inside' same
  have below : i < (deliveries past).length := List.mem_range.mp inside
  have below' : j < (deliveries past).length := List.mem_range.mp inside'
  rw [keyAt_inj] at same
  omega

theorem numbered_of_indexed {d : Desk} (indexed : Indexed d) (readings : List Reading) :
    Numbered d.counter.value.toNat (rounds d readings) (stand d readings) := by
  have start : Numbered d.counter.value.toNat [] d := by
    refine ⟨?_, indexed, rfl⟩
    have bound : d.counter.value.toNat < 4294967296 := d.counter.value.toNat_lt
    simp only [deliveries, List.filterMap_nil, List.length_nil, Counter.greatest]
    omega
  have keeps (past : List Round) (e : Desk) (r : Reading)
      (h : Numbered d.counter.value.toNat past e) :
      Numbered d.counter.value.toNat (past ++ [⟨e, r⟩]) (next e r) :=
    h.step r
  exact rounds_invariant start keeps readings

theorem numbered_of_rounds {d : Desk} (idle : d.session.taskIndex = none)
    (readings : List Reading) :
    Numbered d.counter.value.toNat (rounds d readings) (stand d readings) := by
  apply numbered_of_indexed
  intro index has
  rw [idle] at has
  cases has

/-! ## The keys of a store -/

/-- The keys of the first tasks, without those that come again. -/
def distinctKeys (first count : Nat) : List String :=
  (List.range (min count (Counter.greatest + 1 - first))).map fun j => keyAt (first + j)

theorem mem_distinctKeys {first count : Nat} (bound : first ≤ Counter.greatest) :
    keyAt (first + count) ∈ distinctKeys first count ↔ Counter.greatest < first + count := by
  simp only [distinctKeys, List.mem_map, List.mem_range, keyAt_inj]
  constructor
  · rintro ⟨j, below, same⟩
    omega
  · intro passed
    exact ⟨Counter.greatest - first, by omega, by omega⟩

theorem distinctKeys_succ {first count : Nat} (bound : first ≤ Counter.greatest) :
    distinctKeys first (count + 1) =
      if keyAt (first + count) ∈ distinctKeys first count then distinctKeys first count
      else distinctKeys first count ++ [keyAt (first + count)] := by
  simp only [mem_distinctKeys bound]
  unfold distinctKeys
  split
  · next passed =>
      have same : min (count + 1) (Counter.greatest + 1 - first) =
          min count (Counter.greatest + 1 - first) := by omega
      rw [same]
  · next within =>
      have longer : min (count + 1) (Counter.greatest + 1 - first) = count + 1 := by omega
      have all : min count (Counter.greatest + 1 - first) = count := by omega
      rw [longer, all, List.range_succ, List.map_append, List.map_singleton]

/-- Scripts that are put under numbered keys stand under the distinct ones. -/
theorem names_putAll_numbered {first : Nat} (bound : first ≤ Counter.greatest) {entries : Catalog}
    (numbered : entries.names = (List.range entries.length).map fun j => keyAt (first + j)) :
    (Catalog.putAll entries).names = distinctKeys first entries.length := by
  induction entries using List.reverseRecOn with
  | nil => simp [Catalog.putAll, Catalog.names, distinctKeys]
  | append_singleton front last ih =>
      obtain ⟨key, text⟩ := last
      rw [Catalog.names_append, List.length_append, List.length_singleton, List.range_succ,
        List.map_append] at numbered
      obtain ⟨earlier, latest⟩ := List.append_inj' numbered rfl
      obtain rfl : key = keyAt (first + front.length) := List.singleton_inj.mp latest
      rw [Catalog.putAll_append, Catalog.names_put, ih earlier, List.length_append,
        List.length_singleton, distinctKeys_succ bound]

/-- The store of a run lists the distinct keys of its deliveries. -/
theorem store_keys {d : Desk} (fresh : d.store = .empty) (unwritten : d.written = [])
    (idle : d.session.taskIndex = none) (readings : List Reading) :
    (stand d readings).store.keys =
      distinctKeys d.counter.value.toNat (deliveries (rounds d readings)).length := by
  have numbered := numbered_of_rounds idle readings
  have ledger := ledger_of_rounds fresh unwritten readings
  have bound : d.counter.value.toNat ≤ Counter.greatest :=
    Nat.le_of_lt_succ d.counter.value.toNat_lt
  have names : (entries (deliveries (rounds d readings))).names =
      (List.range (entries (deliveries (rounds d readings))).length).map fun j =>
        keyAt (d.counter.value.toNat + j) := by
    rw [names_entries, entries, List.length_map]
    exact numbered.keys
  rw [Store.keys, ledger.store, names_putAll_numbered bound names, entries, List.length_map]

theorem key_of_delivery {d : Desk} (idle : d.session.taskIndex = none) {readings : List Reading}
    {past later : List Round} {x : Round} {v : Delivery}
    (split : rounds d readings = past ++ x :: later) (delivered : x.delivery? = some v) :
    v.script.key = keyAt (d.counter.value.toNat + (deliveries past).length) := by
  obtain ⟨heardSoFar, rfl, before⟩ := rounds_split split
  have numbered := numbered_of_rounds idle heardSoFar
  obtain ⟨task, made, rfl⟩ := Option.map_eq_some_iff.mp delivered
  rw [Round.task?, before] at made
  rw [key_of_task numbered.indexed made, numbered.counter, keyAt_min]

/-- The tasks of a run count up from the first index of the settings to the greatest one. Two of
    them have the same key exactly when the first of the two has reached that, and a script takes
    the place of another one exactly when an earlier task has reached it. So the store holds one
    script for each index, and as long as the indices last every script that was made. -/
theorem key_reused_iff_saturated (config : Config) (color : Bool) (tree : FileTree)
    (faults : List (Option DiskFault)) (operator : Operator) (sink : Sink) (stamp : Audit.Stamp)
    (readings : List Reading) :
    let start := opened config color tree faults operator sink stamp
    let t := run start readings
    let done := rounds (introduced start) (t.exchanges.map (·.reading))
    let first := config.firstTaskIndex.toNat
    (∀ past x later v, done = past ++ x :: later → x.delivery? = some v →
      v.script.key =
          "RemoteDesktop_" ++ Nat.repr (min (first + (deliveries past).length) 4294967295) ∧
        (v.script.key ∈ x.before.store.keys ↔ 4294967295 < first + (deliveries past).length)) ∧
    (∀ i j (before : i < j) (within : j < (deliveries done).length),
      (deliveries done)[i].script.key = (deliveries done)[j].script.key ↔
        4294967295 ≤ first + i) ∧
    t.desk.store.keys.length = min (deliveries done).length (4294967296 - first) ∧
    (first + (deliveries done).length ≤ 4294967296 →
      t.desk.store.scripts = entries (deliveries done)) := by
  intro start t done first
  have echoed := introduced_echoed start
  have bound : first ≤ Counter.greatest := Nat.le_of_lt_succ config.firstTaskIndex.toNat_lt
  have idle : (introduced start).session.taskIndex = none := by
    rw [echoed.alike.session]
    rfl
  have counter : (introduced start).counter.value.toNat = first := by
    rw [echoed.alike.counter]
    rfl
  have keys (heardSoFar : List Reading) : (stand (introduced start) heardSoFar).store.keys =
      distinctKeys first (deliveries (rounds (introduced start) heardSoFar)).length := by
    rw [← counter]
    exact store_keys echoed.alike.store echoed.alike.written idle heardSoFar
  have store : t.desk.store = (stand (introduced start) (t.exchanges.map (·.reading))).store :=
    (run_desk start readings).alike.store
  have numbered := numbered_of_rounds idle (t.exchanges.map (·.reading))
  have ledger := ledger_of_rounds echoed.alike.store echoed.alike.written
    (t.exchanges.map (·.reading))
  rw [counter] at numbered
  refine ⟨?_, ?_, ?_, ?_⟩
  · intro past x later v split delivered
    have key : v.script.key = keyAt (first + (deliveries past).length) :=
      counter ▸ key_of_delivery idle split delivered
    obtain ⟨heardSoFar, rfl, before⟩ := rounds_split split
    refine ⟨key, ?_⟩
    rw [key, before, keys]
    exact mem_distinctKeys bound
  · intro i j before within
    rw [numbered.key (Nat.lt_trans before within), numbered.key within, keyAt_inj]
    unfold Counter.greatest
    omega
  · rw [store, keys, distinctKeys, List.length_map, List.length_range]
    rfl
  · intro lasts
    have nodup : (entries (deliveries done)).names.Nodup := names_entries _ ▸ numbered.nodup lasts
    rw [store, ledger.store, Catalog.putAll_of_nodup nodup]

/-- The last two indices are enough for two tasks. -/
theorem key_reused_iff_saturated_at_last_two :
    ∃ config operator readings,
      config = { Config.default with firstTaskIndex := 4294967294 } ∧
      operator = Operator.scripted
        [.ok "host", .ok "user", .ok "word", .ok "host", .ok "other", .ok "word"] [] ∧
      readings = [.line "new", .line "credentials", .line "complete", .line "new",
        .line "credentials", .line "complete"] ∧
      let start := opened config false ⟨[], []⟩ [] operator .unlimited ⟨⟨0, 0, 0⟩, "me"⟩
      let t := run start readings
      let done := rounds (introduced start) (t.exchanges.map (·.reading))
      (∃ first second, deliveries done = [first, second] ∧ first.script.key ≠ second.script.key) ∧
        t.desk.store.scripts = entries (deliveries done) := by
  -- The values are named first, so that no step of the proof carries the run out but the count.
  obtain ⟨config, settings⟩ : ∃ c, c = { Config.default with firstTaskIndex := 4294967294 } :=
    ⟨_, rfl⟩
  obtain ⟨operator, answers⟩ : ∃ o, o = Operator.scripted
      [.ok "host", .ok "user", .ok "word", .ok "host", .ok "other", .ok "word"] [] := ⟨_, rfl⟩
  obtain ⟨readings, typed⟩ : ∃ r : List Reading, r = [.line "new", .line "credentials",
      .line "complete", .line "new", .line "credentials", .line "complete"] := ⟨_, rfl⟩
  have first : config.firstTaskIndex.toNat = 4294967294 := by
    rw [settings]
    rfl
  have count : (deliveries (rounds (introduced
      (opened config false ⟨[], []⟩ [] operator .unlimited ⟨⟨0, 0, 0⟩, "me"⟩))
      ((run (opened config false ⟨[], []⟩ [] operator .unlimited ⟨⟨0, 0, 0⟩, "me"⟩)
        readings).exchanges.map (·.reading)))).length = 2 := by
    rw [settings, answers, typed]
    decide +kernel
  obtain ⟨-, repeats, -, all⟩ := key_reused_iff_saturated config false ⟨[], []⟩ [] operator
    .unlimited ⟨⟨0, 0, 0⟩, "me"⟩ readings
  refine ⟨config, operator, readings, settings, answers, typed, ?_,
    all (Nat.le_of_eq (by rw [first, count]))⟩
  have different := repeats 0 1 Nat.one_pos (by rw [count]; decide)
  obtain ⟨one, other, same⟩ := List.length_eq_two.mp count
  refine ⟨one, other, same, ?_⟩
  simp only [same, first] at different
  simpa using different

/-- From the greatest index on, the second task of a run has the key of the first, and the store
    keeps only its script. -/
theorem key_reused_at_greatest :
    let config := { Config.default with firstTaskIndex := 4294967295 }
    let start := opened config false ⟨[], []⟩ []
      (.scripted [.ok "host", .ok "user", .ok "word", .ok "host", .ok "other", .ok "word"] [])
      .unlimited ⟨⟨0, 0, 0⟩, "me"⟩
    let t := run start [.line "new", .line "credentials", .line "complete", .line "new",
      .line "credentials", .line "complete"]
    let done := rounds (introduced start) (t.exchanges.map (·.reading))
    config.validate.isOk ∧
    (deliveries done).map (·.script.key) =
      ["RemoteDesktop_4294967295", "RemoteDesktop_4294967295"] ∧
    t.desk.store.keys = ["RemoteDesktop_4294967295"] :=
  ⟨by decide +kernel, by decide +kernel, by decide +kernel⟩

end Shell

end RemoteDesk
