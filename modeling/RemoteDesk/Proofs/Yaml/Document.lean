import RemoteDesk.Proofs.Yaml.Fields
import RemoteDesk.Yaml.Document

/-! # Documents of written fields

The tokens of a mapping that was written field by field make up a document: one mapping whose keys
and values are scalars with what was written.
-/

namespace RemoteDesk.Yaml

/-- A scalar without anything before it. -/
def scalarNode (style : Style) (text : String) : Node :=
  .scalar ⟨none, none⟩ style text

/-- The key and the value of a field as nodes. -/
def Entry.nodes (e : Entry) : Node × Node :=
  (scalarNode .plain e.name, scalarNode e.style e.text)

namespace Cursor

variable (c : Cursor)

theorem readProperties_none {c : Cursor} (plain : c.takeProperties = (none, none, c)) :
    c.readProperties = .ok (⟨none, none⟩, c) := by
  simp [readProperties, plain, bind, Except.bind, pure, Except.pure]

theorem readNode_scalar (block isPart : Bool) (fuel : Nat) (style : Style) (text : String)
    (rest : List Token) :
    readNode block isPart (fuel + 1) (c.moveTo (.scalar style text :: rest)) =
      .ok (scalarNode style text, c.moveTo rest) := by
  have plain := readProperties_none (c := c.moveTo (.scalar style text :: rest)) rfl
  rw [readNode]
  simp only [moveTo, bind, Except.bind] at plain ⊢
  rw [plain]
  rfl

theorem readUnless_scalar {marks : List Token} (block isPart : Bool) (fuel : Nat) (style : Style)
    (text : String) (other : .scalar style text ∉ marks) (rest : List Token) :
    readUnless marks block isPart (fuel + 2) (c.moveTo (.scalar style text :: rest)) =
      .ok (scalarNode style text, c.moveTo rest) := by
  have here : (c.moveTo (.scalar style text :: rest)).isAt marks = false := by
    simp [isAt, moveTo, other]
  rw [readUnless, here]
  exact readNode_scalar c block isPart fuel style text rest

/-- The marks that show that a key or value of a block is left out. -/
def blockMarks : List Token :=
  [.key, .value, .blockEnd]

theorem scalar_not_mem_blockMarks (style : Style) (text : String) :
    .scalar style text ∉ blockMarks := by
  simp [blockMarks]

theorem readValue_scalar (fuel : Nat) (style : Style) (text : String) (rest : List Token) :
    readValue blockMarks true (fuel + 3) (c.moveTo (.value :: .scalar style text :: rest)) =
      .ok (scalarNode style text, c.moveTo rest) := by
  rw [readValue]
  exact c.readUnless_scalar true true fuel style text (scalar_not_mem_blockMarks style text) rest

theorem readEntries_entry (e : Entry) (fuel : Nat) (rest : List Token) :
    readEntries (fuel + 4) (c.moveTo (e.tokens ++ rest)) =
      (readEntries (fuel + 3) (c.moveTo rest)).map fun (entries, c) => (e.nodes :: entries, c) := by
  let after : List Token := .value :: .scalar e.style e.text :: rest
  have key : readUnless blockMarks true true (fuel + 3)
      (c.moveTo (.scalar .plain e.name :: after)) =
        .ok (scalarNode .plain e.name, c.moveTo after) :=
    c.readUnless_scalar true true (fuel + 1) .plain e.name (scalar_not_mem_blockMarks _ _) after
  have value : readValue blockMarks true (fuel + 3) (c.moveTo after) =
      .ok (scalarNode e.style e.text, c.moveTo rest) :=
    c.readValue_scalar fuel e.style e.text rest
  rw [readEntries]
  show (readUnless blockMarks true true (fuel + 3) (c.moveTo (.scalar .plain e.name :: after))).bind
    _ = _
  rw [key]
  dsimp only [Except.bind]
  show (readValue blockMarks true (fuel + 3) (c.moveTo after)).bind _ = _
  rw [value]
  dsimp only [Except.bind]
  show (readEntries (fuel + 3) (c.moveTo rest)).bind _ = _
  cases readEntries (fuel + 3) (c.moveTo rest) <;> rfl

theorem readEntries_written (entries : List Entry) (fuel : Nat) (rest : List Token) :
    readEntries (fuel + entries.length + 4)
        (c.moveTo (entries.flatMap Entry.tokens ++ .blockEnd :: rest)) =
      .ok (entries.map Entry.nodes, c.moveTo rest) := by
  induction entries generalizing fuel with
  | nil => rfl
  | cons e entries ih =>
      have less : fuel + (e :: entries).length + 3 = fuel + entries.length + 4 := by
        rw [List.length_cons]
        omega
      rw [List.flatMap_cons, List.append_assoc, readEntries_entry, less, ih]
      rfl

end Cursor

namespace Document

/-- The document that a row of fields is. -/
def ofEntries (entries : List Entry) : Document :=
  ⟨.mapping ⟨none, none⟩ (entries.map Entry.nodes)⟩

theorem length_tokens (entries : List Entry) :
    entries.length ≤ (entries.flatMap Entry.tokens).length := by
  induction entries with
  | nil => exact Nat.le_refl 0
  | cons e entries ih =>
      rw [List.flatMap_cons, List.length_append, List.length_cons]
      have four : e.tokens.length = 4 := rfl
      omega

theorem ofTokens?_entries (entries : List Entry) :
    ofTokens? (.blockMapping :: entries.flatMap Entry.tokens ++ [.blockEnd]) =
      .ok (some (ofEntries entries)) := by
  let inside : List Token := entries.flatMap Entry.tokens ++ [.blockEnd]
  let tokens : List Token := .blockMapping :: inside
  let c : Cursor := ⟨tokens, standardHandles, []⟩
  have plain := Cursor.readProperties_none (c := c) rfl
  have long : entries.length + 4 ≤ 4 * tokens.length + 3 := by
    have wide := length_tokens entries
    simp only [tokens, inside, List.length_cons, List.length_append]
    omega
  obtain ⟨spare, fuel⟩ := Nat.exists_eq_add_of_le' long
  have read := c.readEntries_written entries spare []
  rw [Nat.add_assoc, ← fuel] at read
  have node : Cursor.readNode true false (4 * tokens.length + 4) c =
      .ok (.mapping ⟨none, none⟩ (entries.map Entry.nodes), c.moveTo []) := by
    rw [Cursor.readNode]
    show (c.readProperties).bind _ = _
    rw [plain]
    show (Cursor.readEntries (4 * tokens.length + 3) (c.moveTo inside)).bind _ = _
    rw [read]
    rfl
  have content : readContent [] false tokens =
      .ok (.mapping ⟨none, none⟩ (entries.map Entry.nodes), []) := by
    show (Cursor.readNode true false (4 * tokens.length + 4) c).bind _ = _
    rw [node]
    rfl
  show (readContent [] false tokens).bind _ = _
  rw [content]
  rfl

theorem parse?_entries {entries : List Entry} (sound : ∀ e ∈ entries, e.Sound)
    (nonempty : entries ≠ []) :
    parse? (String.ofList (entries.flatMap Entry.source)) = .ok (some (ofEntries entries)) := by
  rw [parse?, String.toList_ofList, ofText_entries sound nonempty]
  exact ofTokens?_entries entries

end Document

end RemoteDesk.Yaml
