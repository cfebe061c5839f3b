import Mathlib.Data.List.Nodup
import RemoteDesk.Proofs.Catalog
import RemoteDesk.Proofs.Shell.Rounds

/-! # The ledger of a run

A task that becomes a script is handed to the store in the round of its own command, which also
writes the script to a file, or does not. What the store holds and what counts as written are read
off these deliveries, so the pending scripts are those that were delivered to no file.
-/

namespace RemoteDesk.Shell

open Desk Desk.Action

/-! ## Deliveries -/

/-- What became of a finished script in the round of its own command. -/
structure Delivery where
  script : Script
  /-- The file that the command wrote the script to, if it did. -/
  path : Option Path

/-- What the round delivers. -/
def Round.delivery? (x : Round) : Option Delivery :=
  x.task?.map fun task => ⟨task.script, file? (finished x.before task) task.script.key⟩

/-- What a row of rounds delivers, in order. -/
def deliveries (rounds : List Round) : List Delivery :=
  rounds.filterMap (·.delivery?)

/-- The delivered scripts by key. -/
def entries (delivered : List Delivery) : Catalog :=
  delivered.map fun v => (v.script.key, v.script.text)

theorem names_entries (delivered : List Delivery) :
    (entries delivered).names = delivered.map (·.script.key) := by
  simp only [entries, Catalog.names, List.map_map, Function.comp_def]

theorem deliveries_snoc_none {past : List Round} {d : Desk} {r : Reading}
    (made : task? d r = none) : deliveries (past ++ [⟨d, r⟩]) = deliveries past := by
  simp [deliveries, Round.delivery?, Round.task?, made]

theorem deliveries_snoc_some {past : List Round} {d : Desk} {r : Reading} {task : CompletedTask}
    (made : task? d r = some task) :
    deliveries (past ++ [⟨d, r⟩]) =
      deliveries past ++ [⟨task.script, file? (finished d task) task.script.key⟩] := by
  simp [deliveries, Round.delivery?, Round.task?, made]

/-! ## One completion -/

/-- A round that makes no script leaves the scripts and the counter. -/
theorem Effect.books_of_none {d d' : Desk} (h : Effect d d' none) :
    d'.store = d.store ∧ d'.counter = d.counter ∧ d'.written = d.written := by
  cases h with
  | authors session registry operator moves alike =>
      exact ⟨alike.store, alike.counter, alike.written⟩

theorem Effect.books_of_some {d d' : Desk} {task : CompletedTask} (h : Effect d d' (some task)) :
    d'.store = d.store.add task.script.key task.script.text ∧ d'.counter = d.counter.advance ∧
      d'.written =
        if (file? (finished d task) task.script.key).isSome then task.script.key :: d.written
        else d.written := by
  cases h with
  | completes task completed echoed =>
      have alike := alike_of_completes echoed
      exact ⟨alike.store, alike.counter, alike.written⟩

/-! ## All completions -/

/-- The store holds what was delivered, and what counts as written is what was delivered to a
    file. -/
structure Ledger (past : List Round) (d : Desk) : Prop where
  store : d.store.scripts = (entries (deliveries past)).putAll
  written : ∀ key, key ∈ d.written ↔ ∃ v ∈ deliveries past, v.path.isSome ∧ v.script.key = key

theorem Ledger.step {past : List Round} {d : Desk} (h : Ledger past d) (r : Reading) :
    Ledger (past ++ [⟨d, r⟩]) (next d r) := by
  have effect := (turn_leads d r).effect
  cases made : task? d r with
  | none =>
      rw [made] at effect
      obtain ⟨store, -, written⟩ := effect.books_of_none
      constructor <;> rw [deliveries_snoc_none made, next]
      · rw [store]
        exact h.store
      · rw [written]
        exact h.written
  | some task =>
      rw [made] at effect
      obtain ⟨store, -, written⟩ := effect.books_of_some
      constructor <;> rw [deliveries_snoc_some made, next]
      · rw [store, entries, List.map_append, List.map_singleton, Catalog.putAll_append, ← entries,
          ← h.store]
        rfl
      · intro key
        rw [written]
        cases file? (finished d task) task.script.key with
        | none => simpa using h.written key
        | some path =>
            simp only [Option.isSome_some, if_true, List.mem_cons, h.written key, List.mem_append,
              List.not_mem_nil, or_false]
            constructor
            · rintro (rfl | ⟨v, member, delivered, rfl⟩)
              · exact ⟨_, .inr rfl, rfl, rfl⟩
              · exact ⟨v, .inl member, delivered, rfl⟩
            · rintro ⟨v, member | rfl, delivered, rfl⟩
              · exact .inr ⟨v, member, delivered, rfl⟩
              · exact .inl rfl

theorem ledger_of_rounds {d : Desk} (fresh : d.store = .empty) (unwritten : d.written = [])
    (readings : List Reading) : Ledger (rounds d readings) (stand d readings) := by
  have start : Ledger [] d := by
    constructor
    · rw [fresh]
      rfl
    · simp [unwritten, deliveries]
  have keeps (past : List Round) (d : Desk) (r : Reading) (h : Ledger past d) :
      Ledger (past ++ [⟨d, r⟩]) (next d r) :=
    h.step r
  exact rounds_invariant start keeps readings

/-- Where no two tasks had the same key, the pending scripts are those that were delivered to no
    file, in the order of completion. -/
theorem Ledger.pending {past : List Round} {d : Desk} (h : Ledger past d)
    (nodup : ((deliveries past).map (·.script.key)).Nodup) :
    Shell.pending d = ((deliveries past).filter (·.path.isNone)).map (·.script.text) := by
  have distinct : (entries (deliveries past)).names.Nodup := names_entries _ ▸ nodup
  have scripts : d.store.scripts = entries (deliveries past) :=
    h.store.trans (Catalog.putAll_of_nodup distinct)
  have unwritten : ∀ v ∈ deliveries past, (!d.written.contains v.script.key) = v.path.isNone := by
    intro v member
    rw [← Option.not_isSome, Bool.not_inj_iff, Bool.eq_iff_iff, List.contains_iff_mem, h.written]
    constructor
    · rintro ⟨other, member', delivered, same⟩
      rwa [List.inj_on_of_nodup_map nodup member' member same] at delivered
    · intro delivered
      exact ⟨v, member, delivered, rfl⟩
  unfold Shell.pending Store.keys Store.get?
  rw [scripts, Catalog.filterMap_get? distinct, entries, List.filter_map, List.map_map]
  exact congrArg _ (List.filter_congr unwritten)

end RemoteDesk.Shell
