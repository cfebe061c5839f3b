import Mathlib.Data.Finset.Card
import RemoteDesk.Proofs.Catalog
import RemoteDesk.Store

/-! # The store as a map of scripts

What a store answers depends on the scripts that were handed to it and on nothing else: under each
key it has the one that came last, and its keys stand in the order in which they came first. Writing
a script replaces one file by that script, or does nothing when there is none; either way the store
is not asked to remember it.
-/

namespace RemoteDesk.Store

/-- One thing to do with a store at hand and files to write to. -/
inductive Step where
  | add (key script : String)
  | write (key : String) (directory : Path) (extension : String)

/-- The script that a step hands to the store, with its key. -/
def Step.added? : Step → Option (String × String)
  | .add key script => some (key, script)
  | .write _ _ _ => none

/-- The scripts that a row of steps has handed over, in order. -/
def added (steps : List Step) : Catalog :=
  steps.filterMap Step.added?

def perform (w : Store × FileTree) : Step → Store × FileTree
  | .add key script => (w.1.add key script, w.2)
  | .write key directory extension => (w.1, (w.1.write w.2 key directory extension).2)

/-- A new store and the files after a row of steps. -/
def after (t : FileTree) (steps : List Step) : Store × FileTree :=
  steps.foldl perform (.empty, t)

theorem after_concat (t : FileTree) (steps : List Step) (step : Step) :
    after t (steps ++ [step]) = perform (after t steps) step := by
  rw [after, List.foldl_append, List.foldl_cons, List.foldl_nil, after]

theorem added_concat (steps : List Step) (step : Step) :
    added (steps ++ [step]) = added steps ++ step.added?.toList := by
  rw [added, List.filterMap_append, added]
  cases step <;> rfl

/-- A store has what was handed to it, put under the keys one after another. -/
theorem scripts_after (t : FileTree) (steps : List Step) :
    (after t steps).1.scripts = (added steps).putAll := by
  induction steps using List.reverseRecOn with
  | nil => rfl
  | append_singleton earlier step ih =>
      rw [after_concat, added_concat]
      cases step with
      | add key script =>
          have handed : (Step.add key script).added?.toList = [(key, script)] := rfl
          rw [handed, Catalog.putAll_append, ← ih]
          rfl
      | write key directory extension =>
          have unadded : (Step.write key directory extension).added?.toList = [] := rfl
          rw [unadded, List.append_nil, ← ih]
          rfl

theorem write_of_get? {s : Store} {key script : String} (found : s.get? key = some script)
    (t : FileTree) (directory : Path) (extension : String) :
    s.write t key directory extension =
      let path := scriptPath directory key extension
      ((t.replace path (Utf8.encode script)).1.map fun () => some path,
        (t.replace path (Utf8.encode script)).2) := by
  simp only [write, found]

/-- Whatever was handed to a store and written in between, under each key it has the script that came
    last, and nothing under a key that never came. Its keys are those that came, each once, in the
    order in which they came first, and it has as many scripts. Writing replaces one file, whose name
    the key gives, by the script that came last; under a key that never came it does nothing. No
    writing changes the store. -/
theorem last_script_under_each_key (t : FileTree) (steps : List Step) :
    let s := (after t steps).1
    let files := (after t steps).2
    (∀ key script, s.get? key = some script ↔ (added steps).LastUnder key script) ∧
      (∀ key, s.get? key = none ↔ key ∉ (added steps).names) ∧
      s.keys = (added steps).names.eraseDups ∧ s.keys.Nodup ∧
      s.scripts.length = (added steps).names.toFinset.card ∧
      ∀ key directory extension,
        let path := scriptPath directory key extension
        (perform (s, files) (.write key directory extension)).1 = s ∧
          (∀ script, s.get? key = some script →
            s.write files key directory extension =
              ((files.replace path (Utf8.encode script)).1.map fun () => some path,
                (files.replace path (Utf8.encode script)).2)) ∧
          (key ∉ (added steps).names →
            s.write files key directory extension = (.ok none, files)) := by
  intro s files
  have scripts : s.scripts = (added steps).putAll := scripts_after t steps
  have keys : s.keys = (added steps).names.eraseDups := by
    rw [Store.keys, scripts, Catalog.names_putAll]
  have distinct : s.keys.Nodup := by
    rw [Store.keys, scripts]
    exact Catalog.nodup_putAll _
  have unknown (key : String) : s.get? key = none ↔ key ∉ (added steps).names := by
    rw [Store.get?, Catalog.get?_eq_none_iff, ← Store.keys, keys, List.mem_eraseDups]
  refine ⟨fun key script => ?_, unknown, keys, distinct, ?_, fun key directory extension => ?_⟩
  · rw [Store.get?, scripts, Catalog.get?_putAll, Catalog.get?_reverse_eq_some_iff]
  · have members : (added steps).names.toFinset = s.keys.toFinset := by
      ext key
      rw [List.mem_toFinset, List.mem_toFinset, keys, List.mem_eraseDups]
    rw [members, List.toFinset_card_of_nodup distinct, Store.keys, Catalog.names, List.length_map]
  · refine ⟨rfl, fun script found => write_of_get? found files directory extension, fun absent => ?_⟩
    rw [write, (unknown key).mpr absent]

end RemoteDesk.Store
