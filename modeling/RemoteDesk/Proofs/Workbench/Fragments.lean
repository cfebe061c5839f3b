import RemoteDesk.Proofs.Registry
import RemoteDesk.Proofs.Script.Sections
import RemoteDesk.Proofs.Workbench

/-! # What becomes of a fragment

An accepted fragment waits where its id stands, and it leaves in one of two ways: a later fragment
under the same id takes its place, or a task that becomes a script takes it along with everything
else that waits. That script calls the id once and holds the fragment as it is; what a later script
is made of was stored later. No other step changes what waits.
-/

namespace RemoteDesk

namespace CompletedTask

/-- The script of a task is assembled from these subtasks and no others. -/
def MadeOf (task : CompletedTask) (subtasks : Catalog) : Prop :=
  task.subtasks = subtasks.names ∧
    ∃ c escaped, task.script = Script.assemble task.index c subtasks escaped

/-- The script of a task calls `id` in one line, and its one body of `id` is `fragment`, character by
    character, behind the lines that announce it. -/
def Emits (task : CompletedTask) (id fragment : String) : Prop :=
  ∃ (before after : Catalog) (typed : Credentials),
    task.script.text =
      Script.declaration task.index
        ++ Script.openSequence task.index typed.computer typed.username typed.password
        ++ Script.callSection (before ++ (id, fragment) :: after) ++ Script.closeSequence
        ++ (Script.bodies before
          ++ (Script.heading id ++ Script.parentLine ++ "\n" ++ Script.noteLine ++ fragment)
          ++ Script.bodies after) ∧
    id ∉ before.names ∧ id ∉ after.names ∧
    (Text.lines (Script.callSection (before ++ (id, fragment) :: after)).toList).count
      (Script.callLine id).toList = 1

theorem MadeOf.emits {task : CompletedTask} {r : Registry} {place : Nat} {id fragment : String}
    (made : task.MadeOf r.subtasks) (sound : r.Sound)
    (waits : r.subtasks[place]? = some (id, fragment)) : task.Emits id fragment := by
  obtain ⟨-, c, escaped, script⟩ := made
  have valid : Script.isSubtaskId id := sound.valid _ (List.mem_of_getElem? waits)
  have called := Script.count_callSection sound.valid valid
  obtain ⟨before, after, split, absent, gone⟩ := Catalog.split_of_place sound.distinct waits
  have once : (before ++ (id, fragment) :: after).names.count id = 1 := by
    rw [Catalog.names_append, Catalog.names_cons, List.count_append, List.count_cons_self,
      List.count_eq_zero.mpr absent, List.count_eq_zero.mpr gone]
  rw [split, once] at called
  refine ⟨before, after, if escaped then c.map Script.escape else c, ?_, absent, gone, called⟩
  have held : Script.bodies (before ++ (id, fragment) :: after) =
      Script.bodies before
        ++ (Script.heading id ++ Script.parentLine ++ "\n" ++ Script.noteLine ++ fragment)
        ++ Script.bodies after := by
    rw [Script.bodies_append, Script.bodies_cons, ← String.append_assoc]
    rfl
  rw [script, split, ← held]
  rfl

end CompletedTask

namespace Workbench

variable {σ : Type}

/-- A fragment waits at a place. -/
def Waits (w : Workbench σ) (place : Nat) (id fragment : String) : Prop :=
  w.registry.subtasks[place]? = some (id, fragment)

namespace Record

/-- No fragment was accepted under `id`, and no task became a script. -/
structure Leaves (r : Record σ) (id : String) : Prop where
  noFragment : ∀ fragment, ¬ r.Stores id fragment
  noScript : ∀ task, ¬ r.Completes task

theorem Stores.not_completes {r : Record σ} {id fragment : String} (h : r.Stores id fragment)
    (task : CompletedTask) : ¬ r.Completes task := by
  intro ended
  exact nomatch h.1.symm.trans ended

theorem Stores.unique {r : Record σ} {id id' fragment fragment' : String}
    (h : r.Stores id fragment) (h' : r.Stores id' fragment') : id = id' ∧ fragment = fragment' := by
  rcases h.2 with typed | ⟨tree, path, loaded, read⟩ <;>
    rcases h'.2 with typed' | ⟨tree', path', loaded', read'⟩
  · simpa using typed.symm.trans typed'
  · exact nomatch typed.symm.trans loaded'
  · exact nomatch loaded.symm.trans typed'
  · obtain ⟨rfl, rfl, rfl⟩ : tree = tree' ∧ id = id' ∧ path = path' := by
      simpa using loaded.symm.trans loaded'
    exact ⟨rfl, Except.ok.inj (read.symm.trans read')⟩

/-- What a step can do to the waiting subtasks. -/
inductive Turnover (r : Record σ) : Prop where
  | stores (id fragment : String) (valid : Script.isSubtaskId id) (stores : r.Stores id fragment)
      (waiting : r.after.registry = ⟨r.before.registry.subtasks.put id fragment⟩)
  | drains (task : CompletedTask) (completes : r.Completes task)
      (made : task.MadeOf r.before.registry.subtasks) (waiting : r.after.registry = .empty)
  | keeps (noFragment : ∀ id fragment, ¬ r.Stores id fragment)
      (noScript : ∀ task, ¬ r.Completes task) (waiting : r.after.registry = r.before.registry)

end Record

section Steps

variable [TaskSink σ]

theorem record_turnover (w : Workbench σ) (step : Step) : (w.record step).Turnover := by
  -- A step that gives neither of the two answers has kept what waits.
  have keeps (noFragment : (w.record step).answer ≠ .inserted (.ok ()))
      (noScript : ∀ task, (w.record step).answer ≠ .completed (.ok task))
      (same : (w.record step).after.registry = w.registry) : (w.record step).Turnover :=
    .keeps (fun _ _ stores => noFragment stores.1) noScript same
  cases step with
  | complete escaped =>
      rcases Session.complete_cases w.session w.registry w.sink escaped with
        ⟨index, -, -, accepted⟩ | ⟨-, refused⟩
      · refine .drains (w.session.task index w.registry escaped) ?_ ⟨rfl, _, _, rfl⟩ ?_
        · simp only [Record.Completes, record, perform, accepted]
        · simp only [record, perform, accepted]
      · apply keeps <;> simp [record, perform, refused]
  | insert id fragment =>
      rcases w.registry.insert_cases id fragment with ⟨valid, accepted⟩ | ⟨-, refused⟩
      · refine .stores id fragment valid ⟨?_, .inl rfl⟩ ?_ <;>
          simp only [record, perform, keep, accepted]
      · apply keeps <;> simp [record, perform, keep, refused]
  | loadFile tree id path =>
      rcases w.registry.loadFile_cases tree id path with
        ⟨fragment, read, valid, accepted⟩ | ⟨e, refused⟩
      · refine .stores id fragment valid ⟨?_, .inr ⟨tree, path, rfl, read⟩⟩ ?_ <;>
          simp only [record, perform, keep, accepted]
      · apply keeps <;> simp [record, perform, keep, refused]
  | start | capture | showCredentials | discard | advance | render =>
      apply keeps <;> simp [record, perform]

end Steps

theorem Record.Turnover.sound {r : Record σ} (h : r.Turnover) (sound : r.before.registry.Sound) :
    r.after.registry.Sound := by
  cases h with
  | stores id fragment valid stores waiting => exact waiting ▸ sound.put valid fragment
  | drains task completes made waiting => exact waiting ▸ .empty
  | keeps noFragment noScript waiting => exact waiting ▸ sound

/-! ## Places -/

/-- The id took `place` when it was first accepted since the last script: as many other ids were
    waiting then, and `id` was not among them. -/
def FirstPlace (past : List (Record σ)) (id : String) (place : Nat) : Prop :=
  ∃ earlier first since, past = earlier ++ first :: since ∧
    (∃ fragment, first.Stores id fragment) ∧
    id ∉ first.before.registry.ids ∧ first.before.registry.subtasks.length = place ∧
    ∀ r ∈ since, ∀ task, ¬ r.Completes task

theorem FirstPlace.snoc {past : List (Record σ)} {id : String} {place : Nat} {r : Record σ}
    (h : FirstPlace past id place) (noScript : ∀ task, ¬ r.Completes task) :
    FirstPlace (past ++ [r]) id place := by
  obtain ⟨earlier, first, since, rfl, stores, fresh, counted, scriptless⟩ := h
  refine ⟨earlier, first, since ++ [r], by simp, stores, fresh, counted, ?_⟩
  exact List.forall_mem_append.mpr ⟨scriptless, List.forall_mem_singleton.mpr noScript⟩

/-- Every waiting id stands where it came first. -/
structure Placed (past : List (Record σ)) (r : Registry) : Prop where
  sound : r.Sound
  first : ∀ (place : Nat) id, r.ids[place]? = some id → FirstPlace past id place

theorem Placed.empty (past : List (Record σ)) : Placed past .empty :=
  ⟨.empty, by simp [Registry.ids, Registry.empty, Catalog.names]⟩

theorem Placed.step {past : List (Record σ)} {r : Record σ} (turnover : r.Turnover)
    (h : Placed past r.before.registry) : Placed (past ++ [r]) r.after.registry := by
  refine ⟨turnover.sound h.sound, ?_⟩
  intro place other stands
  cases turnover with
  | stores id fragment valid stores waiting =>
      rw [waiting] at stands
      rcases Catalog.getElem?_names_put stands with old | ⟨fresh, rfl, last⟩
      · exact (h.first place other old).snoc stores.not_completes
      · exact ⟨past, r, [], rfl, ⟨fragment, stores⟩, fresh, last, by simp⟩
  | drains task completes made waiting =>
      rw [waiting] at stands
      simp [Registry.ids, Registry.empty, Catalog.names] at stands
  | keeps noFragment noScript waiting =>
      rw [waiting] at stands
      exact (h.first place other stands).snoc noScript

/-! ## What a step leaves -/

namespace Record

theorem Turnover.waits_of_leaves {r : Record σ} (h : r.Turnover) {place : Nat}
    {id fragment : String} (leaves : r.Leaves id) (waits : r.before.Waits place id fragment) :
    r.after.Waits place id fragment := by
  cases h with
  | stores other text valid stores waiting =>
      have different : id ≠ other := by
        rintro rfl
        exact leaves.noFragment text stores
      unfold Waits
      rw [waiting]
      exact Catalog.getElem?_put_of_ne waits different text
  | drains task completes made waiting => exact (leaves.noScript task completes).elim
  | keeps noFragment noScript waiting =>
      unfold Waits
      rw [waiting]
      exact waits

theorem Turnover.waits_of_stores {r : Record σ} (h : r.Turnover) (sound : r.before.registry.Sound)
    {place : Nat} {id fragment other : String} (waits : r.before.Waits place id fragment)
    (stores : r.Stores id other) : r.after.Waits place id other := by
  cases h with
  | stores id' text valid stores' waiting =>
      obtain ⟨rfl, rfl⟩ := stores.unique stores'
      unfold Waits
      rw [waiting]
      exact Catalog.getElem?_put_self sound.distinct waits other
  | drains task completes made waiting => exact (stores.not_completes task completes).elim
  | keeps noFragment noScript waiting => exact (noFragment id other stores).elim

theorem Turnover.of_completes {r : Record σ} (h : r.Turnover) {task : CompletedTask}
    (completes : r.Completes task) :
    task.MadeOf r.before.registry.subtasks ∧ r.after.registry = .empty := by
  cases h with
  | stores id fragment valid stores waiting => exact (stores.not_completes task completes).elim
  | drains task' completes' made waiting =>
      obtain rfl : task = task' := by
        simpa [Completes] using completes.symm.trans completes'
      exact ⟨made, waiting⟩
  | keeps noFragment noScript waiting => exact (noScript task completes).elim

/-- An accepted fragment waits somewhere. -/
theorem Turnover.waits {r : Record σ} (h : r.Turnover) {id fragment : String}
    (stores : r.Stores id fragment) : ∃ place, r.after.Waits place id fragment := by
  cases h with
  | stores id' fragment' valid stores' waiting =>
      obtain ⟨rfl, rfl⟩ := stores.unique stores'
      unfold Waits
      rw [waiting]
      exact Catalog.exists_place_put id fragment _
  | drains task completes made waiting => exact (stores.not_completes task completes).elim
  | keeps noFragment noScript waiting => exact (noFragment id fragment stores).elim

theorem Turnover.keeps_of_neither {r : Record σ} (h : r.Turnover)
    (noFragment : ∀ id fragment, ¬ r.Stores id fragment)
    (noScript : ∀ task, ¬ r.Completes task) : r.after.registry = r.before.registry := by
  cases h with
  | stores id fragment valid stores waiting => exact (noFragment id fragment stores).elim
  | drains task completes made waiting => exact (noScript task completes).elim
  | keeps _ _ waiting => exact waiting

end Record

/-! ## Histories -/

variable [TaskSink σ]

theorem placed_before {w : Workbench σ} {steps : List Step} {past later : List (Record σ)}
    {r : Record σ} (unregistered : w.registry = .empty)
    (split : w.history steps = past ++ r :: later) :
    r = r.before.record r.step ∧ Placed past r.before.registry := by
  have keeps (past : List (Record σ)) (w : Workbench σ) (step : Step)
      (h : Placed past w.registry) :
      Placed (past ++ [w.record step]) (w.record step).after.registry :=
    Placed.step (w.record_turnover step) h
  exact history_invariant (I := fun past w => Placed past w.registry) keeps
    (unregistered ▸ Placed.empty []) split

theorem turnover_of_history {w : Workbench σ} {steps : List Step} {past later : List (Record σ)}
    {r : Record σ} (split : w.history steps = past ++ r :: later) : r.Turnover := by
  obtain ⟨made, -⟩ :=
    history_invariant (I := fun _ _ => True) (fun _ _ _ _ => trivial) trivial split
  rw [made]
  exact record_turnover _ _

/-- What waits goes on waiting at its place as long as every step leaves it. -/
theorem waits_before {w : Workbench σ} {steps : List Step} {past later : List (Record σ)}
    {r : Record σ} {place : Nat} {id fragment : String} (waits : w.Waits place id fragment)
    (split : w.history steps = past ++ r :: later) (leave : ∀ x ∈ past, x.Leaves id) :
    r.before.Waits place id fragment := by
  have keeps (past : List (Record σ)) (w : Workbench σ) (step : Step)
      (h : (∀ x ∈ past, x.Leaves id) → w.Waits place id fragment)
      (leave : ∀ x ∈ past ++ [w.record step], x.Leaves id) :
      (w.record step).after.Waits place id fragment :=
    (w.record_turnover step).waits_of_leaves (leave _ (by simp))
      (h fun x member => leave x (List.mem_append_left _ member))
  exact (history_invariant
    (I := fun past w => (∀ x ∈ past, x.Leaves id) → w.Waits place id fragment) keeps
    (fun _ => waits) split).2 leave

/-- Starting with nothing that waits, what waits later has been accepted on the way. -/
theorem stored_before {w : Workbench σ} {steps : List Step} {past later : List (Record σ)}
    {r : Record σ} (unregistered : w.registry = .empty)
    (split : w.history steps = past ++ r :: later) :
    ∀ s ∈ r.before.registry.subtasks, ∃ x ∈ past, x.Stores s.1 s.2 := by
  have keeps (past : List (Record σ)) (w : Workbench σ) (step : Step)
      (h : ∀ s ∈ w.registry.subtasks, ∃ x ∈ past, x.Stores s.1 s.2) :
      ∀ s ∈ (w.record step).after.registry.subtasks,
        ∃ x ∈ past ++ [w.record step], x.Stores s.1 s.2 := by
    have earlier (s : String × String) (member : s ∈ w.registry.subtasks) :
        ∃ x ∈ past ++ [w.record step], x.Stores s.1 s.2 := by
      obtain ⟨x, inside, stores⟩ := h s member
      exact ⟨x, List.mem_append_left _ inside, stores⟩
    cases w.record_turnover step with
    | stores id fragment valid stores waiting =>
        rw [waiting]
        intro s member
        rcases Catalog.mem_of_mem_put member with rfl | old
        · exact ⟨w.record step, by simp, stores⟩
        · exact earlier s old
    | drains task completes made waiting =>
        rw [waiting]
        simp [Registry.empty]
    | keeps noFragment noScript waiting =>
        rw [waiting]
        exact earlier
  refine (history_invariant
    (I := fun past w => ∀ s ∈ w.registry.subtasks, ∃ x ∈ past, x.Stores s.1 s.2) keeps ?_ split).2
  rw [unregistered]
  simp [Registry.empty]

/-- What becomes of a fragment that waits at a place, in all that follows: it stands there as long
    as its id is left alone. A later fragment of its id takes its place, or a script emits it; then
    nothing waits, and every script from there on is made of what was accepted since. -/
def Fate (later : List (Record σ)) (place : Nat) (id fragment : String) : Prop :=
  ∀ mid r rest, later = mid ++ r :: rest → (∀ x ∈ mid, x.Leaves id) →
    r.before.Waits place id fragment ∧
    (r.Leaves id → r.after.Waits place id fragment) ∧
    (∀ other, r.Stores id other → r.after.Waits place id other) ∧
    ∀ task, r.Completes task →
      task.Emits id fragment ∧ r.after.registry = .empty ∧
      ∀ since x others, rest = since ++ x :: others → ∀ next, x.Completes next →
        ∃ subtasks, next.MadeOf subtasks ∧ ∀ s ∈ subtasks, ∃ y ∈ since, y.Stores s.1 s.2

theorem fate_of_waits {w : Workbench σ} (sound : w.registry.Sound) {place : Nat}
    {id fragment : String} (waits : w.Waits place id fragment) (steps : List Step) :
    Fate (w.history steps) place id fragment := by
  intro mid r rest split leave
  have turnover : r.Turnover := turnover_of_history split
  have stands : r.before.Waits place id fragment := waits_before waits split leave
  have sound : r.before.registry.Sound :=
    (history_invariant (I := fun _ w => w.registry.Sound)
      (fun _ w step h => (w.record_turnover step).sound h) sound split).2
  refine ⟨stands, fun leaves => turnover.waits_of_leaves leaves stands,
    fun other stores => turnover.waits_of_stores sound stands stores, ?_⟩
  intro task completes
  obtain ⟨made, emptied⟩ := turnover.of_completes completes
  refine ⟨made.emits sound stands, emptied, ?_⟩
  intro since x others split' next completes'
  obtain ⟨steps', rfl⟩ := history_after split
  exact ⟨_, ((turnover_of_history split').of_completes completes').1, stored_before emptied split'⟩

/-- Every accepted fragment waits at the place that its id took first since the last script, until a
    later one of its id takes its place or the next script emits it. Nothing waits after a script,
    and a step that neither accepts a fragment nor makes a script leaves all that waits. -/
theorem fragment_consumed_once (session : Session) (counter : Counter) (sink : σ)
    (steps : List Step) {past later : List (Record σ)} {r : Record σ}
    (split : (Workbench.mk session counter .empty sink).history steps = past ++ r :: later) :
    (∀ id fragment, r.Stores id fragment → ∃ place, FirstPlace (past ++ [r]) id place ∧
      r.after.Waits place id fragment ∧ Fate later place id fragment) ∧
    (∀ task, r.Completes task → r.after.registry = .empty) ∧
    ((∀ id fragment, ¬ r.Stores id fragment) → (∀ task, ¬ r.Completes task) →
      r.after.registry = r.before.registry) := by
  obtain ⟨-, placed⟩ := placed_before rfl split
  have turnover : r.Turnover := turnover_of_history split
  refine ⟨?_, fun task completes => (turnover.of_completes completes).2, turnover.keeps_of_neither⟩
  intro id fragment stores
  obtain ⟨place, waits⟩ := turnover.waits stores
  have after : Placed (past ++ [r]) r.after.registry := Placed.step turnover placed
  have first : FirstPlace (past ++ [r]) id place := by
    apply after.first
    rw [Registry.ids, Catalog.names, List.getElem?_map, waits]
    rfl
  obtain ⟨rest, rfl⟩ := history_after split
  exact ⟨place, first, waits, fate_of_waits after.sound waits rest⟩

/-- An id that a script has consumed comes again, behind an id that is waiting by then. -/
theorem fragment_consumed_once_after_script :
    let bench : Workbench Store := ⟨.new, ⟨1⟩, .empty, .empty⟩
    let operator := Operator.scripted [.ok "host", .ok "user", .ok "word"] []
    let steps := [.insert "A" "one", .start, .capture operator, .complete true, .insert "B" "two"]
    let others := [.render, .start, .discard, .start, .capture operator, .complete true]
    let past := bench.history steps
    ∃ r later, bench.history (steps ++ .insert "A" "three" :: others) = past ++ r :: later ∧
      r.Stores "A" "three" ∧ r.after.Waits 1 "A" "three" ∧
      ∃ place, FirstPlace (past ++ [r]) "A" place ∧
        r.after.Waits place "A" "three" ∧ Fate later place "A" "three" := by
  intro bench operator steps others past
  obtain ⟨r, later, split, stores, waits⟩ : ∃ r later,
      bench.history (steps ++ .insert "A" "three" :: others) = past ++ r :: later ∧
        r.Stores "A" "three" ∧ r.after.Waits 1 "A" "three" :=
    ⟨_, _, rfl, ⟨rfl, .inl rfl⟩, rfl⟩
  exact ⟨r, later, split, stores, waits,
    (fragment_consumed_once _ _ _ _ split).1 "A" "three" stores⟩

end Workbench

end RemoteDesk
