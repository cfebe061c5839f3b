import RemoteDesk.Proofs.Catalog
import RemoteDesk.Proofs.Registry
import RemoteDesk.Proofs.Script.Sections

/-! # The registry as an ordered map

Whatever has been done with a registry, its ids are distinct function names, and it holds what was
accepted since it was last emptied: each id once, where it came first, with the fragment that came
last. Whether a fragment is accepted depends on its id alone, and for a file on whether it holds a
text. A refused insertion changes nothing, and neither does a lease that is let go.
-/

namespace RemoteDesk

namespace Script

/-- A letter or an underscore, and then letters, digits and underscores, all of them ASCII. -/
def IsFunctionName (id : String) : Prop :=
  ∃ c rest, id.toList = c :: rest ∧ (c.isAlpha ∨ c = '_') ∧ ∀ d ∈ rest, d.isAlphanum ∨ d = '_'

theorem isSubtaskId_iff {id : String} : isSubtaskId id ↔ IsFunctionName id := by
  have start (c : Char) : isIdStart c ↔ c.isAlpha ∨ c = '_' := by
    rw [isIdStart, Bool.or_eq_true, beq_iff_eq]
  have part (c : Char) : isIdPart c ↔ c.isAlphanum ∨ c = '_' := by
    rw [isIdPart, Bool.or_eq_true, beq_iff_eq]
  constructor
  · intro valid
    obtain ⟨c, rest, same, starts, parts⟩ := isSubtaskId_start valid
    refine ⟨c, rest, same, (start c).mp starts, fun d member => ?_⟩
    exact (part d).mp (List.all_eq_true.mp parts d member)
  · rintro ⟨c, rest, same, starts, parts⟩
    simp only [isSubtaskId, same, Bool.and_eq_true, List.all_eq_true]
    exact ⟨(start c).mpr starts, fun d member => (part d).mpr (parts d member)⟩

end Script

namespace Registry

/-! ## What can be done with a registry -/

/-- One thing to do with a registry. -/
inductive Step where
  | insert (id fragment : String)
  /-- Insert what a file holds. -/
  | loadFile (tree : FileTree) (id : String) (path : Path)
  | reset
  /-- Take a lease, render both projections from it, and let it go. -/
  | render
  /-- Take a lease and drain it. -/
  | drain

/-- What a step says when it is done. -/
inductive Answer where
  | inserted (result : Except DeskError Unit)
  | cleared
  | rendered (callSites bodies : String)
  | drained (count : Nat)

/-- Takes over the outcome of an insertion. -/
def keep (r : Registry) : Except DeskError Registry → Answer × Registry
  | .ok r' => (.inserted (.ok ()), r')
  | .error e => (.inserted (.error e), r)

def perform (r : Registry) : Step → Answer × Registry
  | .insert id fragment => r.keep (r.insert id fragment)
  | .loadFile tree id path => r.keep (r.loadFile tree id path)
  | .reset => (.cleared, empty)
  | .render => (.rendered (Script.callSites r.subtasks) (Script.bodies r.subtasks), r)
  | .drain => (.drained r.drain.1, r.drain.2)

/-- The registry after a row of steps. -/
def after (r : Registry) (steps : List Step) : Registry :=
  steps.foldl (fun r step => (r.perform step).2) r

/-- A row of steps, each with what it answered. -/
def log (r : Registry) : List Step → List (Step × Answer)
  | [] => []
  | step :: rest => (step, (r.perform step).1) :: log (r.perform step).2 rest

theorem after_concat (r : Registry) (steps : List Step) (step : Step) :
    r.after (steps ++ [step]) = ((r.after steps).perform step).2 := by
  rw [after, List.foldl_append, List.foldl_cons, List.foldl_nil, after]

theorem log_concat (r : Registry) (steps : List Step) (step : Step) :
    r.log (steps ++ [step]) = r.log steps ++ [(step, ((r.after steps).perform step).1)] := by
  induction steps generalizing r with
  | nil => rfl
  | cons first rest ih =>
      rw [List.cons_append, log, ih, log, List.cons_append]
      rfl

/-! ## What a log says -/

/-- The step takes everything out. -/
def Step.empties : Step → Bool
  | .reset | .drain => true
  | .insert _ _ | .loadFile _ _ _ | .render => false

/-- The fragment that was accepted, and its id. -/
def accepted? : Step × Answer → Option (String × String)
  | (.insert id fragment, .inserted (.ok ())) => some (id, fragment)
  | (.loadFile tree id path, .inserted (.ok ())) =>
    (tree.readText path).toOption.map fun fragment => (id, fragment)
  | _ => none

/-- What was accepted since everything was last taken out, in order. -/
def acceptedSinceEmptied (log : List (Step × Answer)) : Catalog :=
  (log.reverse.takeWhile fun entry => !entry.1.empties).reverse.filterMap accepted?

theorem acceptedSinceEmptied_concat (log : List (Step × Answer)) (entry : Step × Answer) :
    acceptedSinceEmptied (log ++ [entry]) =
      if entry.1.empties then [] else acceptedSinceEmptied log ++ (accepted? entry).toList := by
  rw [acceptedSinceEmptied, List.reverse_concat, List.takeWhile_cons]
  cases entry.1.empties with
  | true => rfl
  | false =>
      simp only [Bool.not_false, if_true, Bool.false_eq_true, if_false, List.reverse_cons,
        List.filterMap_append, acceptedSinceEmptied]
      cases same : accepted? entry with
      | none => rw [List.filterMap_cons_none same, List.filterMap_nil, Option.toList_none]
      | some s => rw [List.filterMap_cons_some same, List.filterMap_nil, Option.toList_some]

/-- What a step does to the registry. -/
inductive Effect (r : Registry) (step : Step) : Prop where
  | puts (id fragment : String) (valid : Script.isSubtaskId id) (keeps : step.empties = false)
      (accepted : accepted? (step, (r.perform step).1) = some (id, fragment))
      (holds : (r.perform step).2 = ⟨r.subtasks.put id fragment⟩)
  | empties (empties : step.empties) (holds : (r.perform step).2 = empty)
  | stays (keeps : step.empties = false)
      (accepted : accepted? (step, (r.perform step).1) = none) (holds : (r.perform step).2 = r)

theorem perform_effect (r : Registry) (step : Step) : r.Effect step := by
  cases step with
  | insert id fragment =>
      rcases r.insert_cases id fragment with ⟨valid, stored⟩ | ⟨-, refused⟩
      · refine .puts id fragment valid rfl ?_ ?_ <;> simp only [perform, keep, stored, accepted?]
      · refine .stays rfl ?_ ?_ <;> simp only [perform, keep, refused, accepted?]
  | loadFile tree id path =>
      rcases r.loadFile_cases tree id path with ⟨fragment, read, valid, stored⟩ | ⟨e, refused⟩
      · refine .puts id fragment valid rfl ?_ ?_
        · simp only [perform, keep, stored, accepted?, read, Except.toOption, Option.map_some]
        · simp only [perform, keep, stored]
      · refine .stays rfl ?_ ?_ <;> simp only [perform, keep, refused, accepted?]
  | reset | drain => exact .empties rfl rfl
  | render => exact .stays rfl rfl rfl

/-- A registry has what was accepted since it was emptied, put under the ids one after another. -/
structure Follows (log : List (Step × Answer)) (r : Registry) : Prop where
  sound : r.Sound
  holds : r.subtasks = (acceptedSinceEmptied log).putAll

theorem Follows.step {log : List (Step × Answer)} {r : Registry} (h : Follows log r)
    (step : Step) : Follows (log ++ [(step, (r.perform step).1)]) (r.perform step).2 := by
  cases r.perform_effect step with
  | puts id fragment valid keeps accepted holds =>
      rw [holds]
      refine ⟨h.sound.put valid fragment, ?_⟩
      rw [acceptedSinceEmptied_concat, keeps, accepted, if_neg (by decide), Option.toList_some,
        Catalog.putAll_append, ← h.holds]
  | empties empties holds =>
      rw [holds]
      refine ⟨.empty, ?_⟩
      rw [acceptedSinceEmptied_concat, if_pos empties]
      rfl
  | stays keeps accepted holds =>
      rw [holds]
      refine ⟨h.sound, ?_⟩
      rw [acceptedSinceEmptied_concat, keeps, accepted, if_neg (by decide), Option.toList_none,
        List.append_nil, h.holds]

theorem follows_after (steps : List Step) : Follows (empty.log steps) (empty.after steps) := by
  induction steps using List.reverseRecOn with
  | nil => exact ⟨.empty, rfl⟩
  | append_singleton earlier step ih =>
      rw [log_concat, after_concat]
      exact ih.step step

/-! ## Refusals -/

theorem insert_refused_iff (r : Registry) (id fragment : String) :
    (∃ e, (r.perform (.insert id fragment)).1 = .inserted (.error e)) ↔
      ¬ Script.IsFunctionName id := by
  rw [← Script.isSubtaskId_iff]
  rcases r.insert_cases id fragment with ⟨valid, stored⟩ | ⟨invalid, refused⟩
  · simp [perform, keep, stored, valid]
  · simp [perform, keep, refused, invalid]

/-- A file that holds a text is inserted like that text. -/
theorem perform_loadFile_of_text {tree : FileTree} {path : Path} {fragment : String}
    (text : tree.readText path = .ok fragment) (r : Registry) (id : String) :
    r.perform (.loadFile tree id path) = r.perform (.insert id fragment) := by
  simp only [perform, loadFile, text]

theorem perform_loadFile_of_error {tree : FileTree} {path : Path} {e : OsError}
    (text : tree.readText path = .error e) (r : Registry) (id : String) :
    r.perform (.loadFile tree id path) = (.inserted (.error (.unreadableFragment path e)), r) := by
  simp only [perform, loadFile, text, keep]

theorem perform_of_refused {r : Registry} {step : Step} {e : DeskError}
    (refused : (r.perform step).1 = .inserted (.error e)) : (r.perform step).2 = r := by
  cases step with
  | insert id fragment =>
      simp only [perform] at refused ⊢
      cases inserted : r.insert id fragment with
      | error e' => rfl
      | ok r' => simp [inserted, keep] at refused
  | loadFile tree id path =>
      simp only [perform] at refused ⊢
      cases inserted : r.loadFile tree id path with
      | error e' => rfl
      | ok r' => simp [inserted, keep] at refused
  | reset | render | drain => cases refused

/-- Wherever a row of steps has led a registry that was empty at first: its ids are distinct function
    names without any blank, and so without a line break. They are the ids that were accepted since
    everything was last taken out, each where it first came, and each stands with the last fragment
    that was accepted under it. A fragment is refused if and only if its id is no function name; a
    file without a text is refused, and one with a text goes the way of that text. What is refused
    changes nothing, no more than a lease that is let go. Draining and resetting leave nothing, and
    draining says how much there was. -/
theorem accepted_fragments_in_order (steps : List Step) :
    let r := empty.after steps
    let accepted := acceptedSinceEmptied (empty.log steps)
    r.ids.Nodup ∧
      (∀ id ∈ r.ids, Script.IsFunctionName id ∧ ∀ c ∈ id.toList, Text.isBlankChar c = false) ∧
      r.ids = accepted.names.eraseDups ∧
      (∀ s, s ∈ r.subtasks ↔ accepted.LastUnder s.1 s.2) ∧
      (∀ id fragment, (∃ e, (r.perform (.insert id fragment)).1 = .inserted (.error e)) ↔
        ¬ Script.IsFunctionName id) ∧
      (∀ tree id path,
        (∀ fragment, tree.readText path = .ok fragment →
          r.perform (.loadFile tree id path) = r.perform (.insert id fragment)) ∧
        ∀ e, tree.readText path = .error e →
          r.perform (.loadFile tree id path) = (.inserted (.error (.unreadableFragment path e)), r)) ∧
      (∀ step e, (r.perform step).1 = .inserted (.error e) → (r.perform step).2 = r) ∧
      (r.perform .render).2 = r ∧ (r.perform .reset).2 = empty ∧
      r.perform .drain = (.drained r.subtasks.length, empty) := by
  intro r accepted
  have follows : Follows (empty.log steps) r := follows_after steps
  refine ⟨follows.sound.distinct, ?_, ?_, ?_, r.insert_refused_iff, ?_,
    fun step e => perform_of_refused, rfl, rfl, rfl⟩
  · intro id member
    obtain ⟨s, waits, rfl⟩ := List.mem_map.mp member
    have valid := follows.sound.valid s waits
    refine ⟨Script.isSubtaskId_iff.mp valid, fun c inside => ?_⟩
    exact Script.not_blank_of_isIdPart (Script.isIdPart_of_mem valid inside)
  · rw [ids, follows.holds, Catalog.names_putAll]
  · intro s
    rw [← Catalog.get?_reverse_eq_some_iff, ← Catalog.get?_putAll, ← follows.holds]
    exact Catalog.mem_iff_get? follows.sound.distinct
  · intro tree id path
    exact ⟨fun fragment text => perform_loadFile_of_text text r id,
      fun e text => perform_loadFile_of_error text r id⟩

end Registry

end RemoteDesk
