import RemoteDesk.Proofs.Audit.Life

/-! # The subtasks that wait, as far as the log tells

A subtask waits from the event that adds it up to the next completion, in the order in which the
subtasks were first added.
-/

namespace RemoteDesk.Audit

/-- The ids that wait once one more is added. -/
def added (waiting : List String) (id : String) : List String :=
  if id ∈ waiting then waiting else waiting ++ [id]

theorem mem_added {waiting : List String} {new id : String} :
    id ∈ added waiting new ↔ id ∈ waiting ∨ id = new := by
  unfold added
  split <;> grind

theorem mem_foldl_added {waiting more : List String} {id : String} :
    id ∈ more.foldl added waiting ↔ id ∈ waiting ∨ id ∈ more := by
  induction more generalizing waiting with
  | nil => simp
  | cons first rest ih => simp [ih, mem_added, or_assoc]

theorem foldl_added_eq_self {waiting more : List String} :
    more.foldl added waiting = waiting ↔ ∀ id ∈ more, id ∈ waiting := by
  constructor
  · intro same id member
    rw [← same]
    exact mem_foldl_added.mpr (.inr member)
  · intro known
    induction more with
    | nil => rfl
    | cons first rest ih =>
        rw [List.foldl_cons, added, if_pos (known first List.mem_cons_self)]
        exact ih fun id member => known id (List.mem_cons_of_mem first member)

/-- The subtask that a deed adds. -/
def Deed.subtask? (x : Deed) : Option String :=
  match x.action with
  | .subtaskAdd => (x.details.field? "subtask").bind Json.text?
  | .start | .credentials | .complete | .discard => none

def await (waiting : List String) (x : Deed) : List String :=
  if x.action = .complete then [] else x.subtask?.elim waiting (added waiting)

/-- While no task is completed, the subtasks that are added wait one after another. -/
theorem foldl_await {deeds : List Deed} (goes : ∀ x ∈ deeds, x.action ≠ .complete)
    (waiting : List String) :
    deeds.foldl await waiting = (deeds.filterMap Deed.subtask?).foldl added waiting := by
  induction deeds generalizing waiting with
  | nil => rfl
  | cons x rest ih =>
      have later := ih fun x member => goes x (List.mem_cons_of_mem _ member)
      rw [List.foldl_cons, later, await, if_neg (goes x List.mem_cons_self), List.filterMap_cons]
      cases x.subtask? <;> rfl

/-- The ids that a log leaves waiting. -/
def waiting (log : List Event) : List String :=
  (log.map (·.deed)).foldl await []

theorem waiting_append (log later : List Event) :
    waiting (log ++ later) = (later.map (·.deed)).foldl await (waiting log) := by
  rw [waiting, List.map_append, List.foldl_append]
  rfl

/-- An event has added the subtask, and no task has been completed since. -/
def Announced (log : List Event) (id : String) : Prop :=
  ∃ past e later, log = past ++ e :: later ∧ e.deed.subtask? = some id ∧
    ∀ e' ∈ later, e'.deed.action ≠ .complete

theorem announced_of_waiting {log : List Event} {id : String} (h : id ∈ waiting log) :
    Announced log id := by
  -- From the end: the last event adds the subtask, or it waited before and was not taken.
  induction log using List.reverseRecOn with
  | nil => cases h
  | append_singleton log last ih =>
      have onward (action : last.deed.action ≠ .complete) (before : id ∈ waiting log) :
          Announced (log ++ [last]) id := by
        obtain ⟨past, e, later, rfl, adds, since⟩ := ih before
        refine ⟨past, e, later ++ [last], by simp, adds, ?_⟩
        intro e' member
        rcases List.mem_append.mp member with earlier | final
        · exact since e' earlier
        · rw [List.mem_singleton.mp final]
          exact action
      rw [waiting_append, List.map_singleton, List.foldl_cons, List.foldl_nil] at h
      by_cases complete : last.deed.action = .complete
      · rw [await, if_pos complete] at h
        cases h
      · rw [await, if_neg complete] at h
        cases adds : last.deed.subtask? with
        | none =>
            rw [adds, Option.elim_none] at h
            exact onward complete h
        | some new =>
            rw [adds, Option.elim_some, mem_added] at h
            rcases h with before | rfl
            · exact onward complete before
            · exact ⟨log, last, [], rfl, adds, by simp⟩

end RemoteDesk.Audit
