import RemoteDesk.Proofs.Yaml.Document
import RemoteDesk.Proofs.Yaml.Meaning
import RemoteDesk.Yaml.Reading

/-! # Reading written fields

In a document that was written field by field, with each name once, a field is found by its name,
and what is read of it is what was written. No aliases are followed for that.
-/

namespace RemoteDesk.Yaml.Document

variable {entries : List Entry}

/-! ## Fields -/

/-- A field as it is found: its name and the node of its value. -/
def found (e : Entry) : String × Node :=
  (e.name, scalarNode e.style e.text)

theorem fields_ofEntries (entries : List Entry) :
    (ofEntries entries).fields = pure (entries.map found) := by
  have held : (ofEntries entries).entries (ofEntries entries).root =
      pure (entries.map Entry.nodes) := rfl
  rw [fields, held, pure_bind, List.mapM_map]
  exact List.mapM_pure

theorem filter_found_of_not_mem {name : String} (absent : name ∉ entries.map Entry.name) :
    (entries.map found).filter (·.1 = name) = [] := by
  rw [List.filter_eq_nil_iff]
  intro field member same
  obtain ⟨e, among, rfl⟩ := List.mem_map.mp member
  exact absent (of_decide_eq_true same ▸ List.mem_map_of_mem among)

theorem filter_found (distinct : (entries.map Entry.name).Nodup) {e : Entry}
    (member : e ∈ entries) : (entries.map found).filter (·.1 = e.name) = [found e] := by
  induction entries with
  | nil => cases member
  | cons d entries ih =>
      rw [List.map_cons, List.nodup_cons] at distinct
      obtain ⟨single, distinct⟩ := distinct
      rcases List.mem_cons.mp member with rfl | later
      · have others := filter_found_of_not_mem single
        simpa [found] using others
      · have other : d.name ≠ e.name := fun same => single (same ▸ List.mem_map_of_mem later)
        simp [found, other, ih distinct later]

theorem field_of_mem {α : Type} (distinct : (entries.map Entry.name).Nodup) {e : Entry}
    (member : e ∈ entries) (f : Node → Reading α) (fallback : α) :
    field (entries.map found) e.name f fallback = f (scalarNode e.style e.text) := by
  rw [field, filter_found distinct member]
  rfl

theorem field_of_not_mem {α : Type} {name : String} (absent : name ∉ entries.map Entry.name)
    (f : Node → Reading α) (fallback : α) :
    field (entries.map found) name f fallback = pure fallback := by
  rw [field, filter_found_of_not_mem absent]

/-! ## Values -/

theorem text_written (d : Document) (style : Style) (text : String) :
    d.text (scalarNode style text) = pure text :=
  rfl

theorem isNothing_written (s : String) : isNothing none (Writing.style s) s = .ok false := by
  rcases Writing.style_cases s with ⟨how, -⟩ | ⟨how, meant, -⟩ | ⟨how, -⟩ | how
  · simp [isNothing, how]
  · have word : ¬ (s = "" ∨ s ∈ Meaning.nullWords) := by
      intro nothing
      rw [Meaning.ofText, if_pos nothing] at meant
      cases meant
    simp [isNothing, how, not_or.mp word]
  · simp [isNothing, how]
  · simp [isNothing, how]

/-- A text that shows nothing is written so that it still is a text. -/
theorem optionalText_written (d : Document) (s : String) :
    d.optionalText (scalarNode (Writing.style s) s) = pure (some s) := by
  show (do
    let nothing ← (liftM (isNothing none (Writing.style s) s) : Reading Bool)
    return if nothing then none else some s) = _
  rw [isNothing_written]
  rfl

theorem bool_written (d : Document) (b : Bool) :
    d.bool (scalarNode .plain (if b then "true" else "false")) = pure b := by
  cases b <;> rfl

theorem word?_written (n : UInt32) : word? ⟨none, none⟩ .plain (Nat.repr n.toNat) = some n := by
  have digits : Meaning.natural? (Nat.repr n.toNat).toList = some n.toNat := by
    rw [Nat.toList_repr, Meaning.natural?_toDigits]
  have small : n.toNat < Nat.pow 2 32 := n.toNat_lt
  simp only [word?, saying?, true_or, if_true, Option.bind_some, digits, bind, if_pos small, pure,
    UInt32.ofNat_toNat]

theorem word_written (d : Document) (n : UInt32) :
    d.word (scalarNode .plain (Nat.repr n.toNat)) = pure n := by
  simp only [word, scalarNode, follow, pure_bind, word?_written]

end RemoteDesk.Yaml.Document
