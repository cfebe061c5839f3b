import RemoteDesk.Shell

/-! # Taking colors off a text

Painting only puts sequences into a text that switch colors. They all start with the escape
character, so in what was made from a text without that character they can be told from the text, and
taking them out gives the text back.
-/

namespace RemoteDesk

namespace Palette

/-- All sequences that painting puts into a text. -/
def codes : List String :=
  [Color.red.code, Color.green.code, Color.yellow.code, Color.blue.code, plainCode]

/-- Drops every sequence that switches a color, from left to right. -/
def uncolor : List Char → List Char
  | [] => []
  | '\x1b' :: '[' :: '3' :: digit :: 'm' :: rest =>
    if digit ∈ ['1', '2', '3', '4', '9'] then uncolor rest
    else '\x1b' :: uncolor ('[' :: '3' :: digit :: 'm' :: rest)
  | c :: rest => c :: uncolor rest

/-- A text without the sequences that switch colors. -/
def uncolored (text : String) : String :=
  String.ofList (uncolor text.toList)

theorem uncolor_code {code : String} (switches : code ∈ codes) (rest : List Char) :
    uncolor (code.toList ++ rest) = uncolor rest := by
  simp only [codes, List.mem_cons, List.not_mem_nil, or_false] at switches
  rcases switches with rfl | rfl | rfl | rfl | rfl <;> rfl

theorem uncolor_cons {c : Char} (plain : c ≠ '\x1b') (rest : List Char) :
    uncolor (c :: rest) = c :: uncolor rest := by
  rw [uncolor.eq_def]
  split
  · next empty => cases empty
  · next starts => exact absurd (List.cons.inj starts).1 plain
  · next same =>
      cases same
      rfl

/-- The second row of characters is the first with sequences put in that switch colors. -/
inductive Tints : List Char → List Char → Prop where
  | nil : Tints [] []
  | letter (c : Char) {plain tinted : List Char} (rest : Tints plain tinted) :
      Tints (c :: plain) (c :: tinted)
  | code {code : String} (switches : code ∈ codes) {plain tinted : List Char}
      (rest : Tints plain tinted) : Tints plain (code.toList ++ tinted)

namespace Tints

theorem refl (cs : List Char) : Tints cs cs := by
  induction cs with
  | nil => exact .nil
  | cons c rest ih => exact .letter c ih

theorem append {plain tinted plain' tinted' : List Char} (h : Tints plain tinted)
    (h' : Tints plain' tinted') : Tints (plain ++ plain') (tinted ++ tinted') := by
  induction h with
  | nil => exact h'
  | letter c _ ih => exact .letter c ih
  | code switches _ ih =>
      rw [List.append_assoc]
      exact .code switches ih

theorem uncolor {plain tinted : List Char} (h : Tints plain tinted) (unescaped : '\x1b' ∉ plain) :
    Palette.uncolor tinted = plain := by
  induction h with
  | nil => rfl
  | letter c _ ih =>
      obtain ⟨different, later⟩ := List.ne_and_not_mem_of_not_mem_cons unescaped
      rw [uncolor_cons different.symm, ih later]
  | code switches _ ih => rw [uncolor_code switches, ih unescaped]

end Tints

/-- The second text is the first with sequences put in that switch colors. -/
def Tinted (plain tinted : String) : Prop :=
  Tints plain.toList tinted.toList

namespace Tinted

theorem refl (text : String) : Tinted text text :=
  Tints.refl text.toList

theorem append {plain tinted plain' tinted' : String} (h : Tinted plain tinted)
    (h' : Tinted plain' tinted') : Tinted (plain ++ plain') (tinted ++ tinted') := by
  unfold Tinted
  rw [String.toList_append, String.toList_append]
  exact Tints.append h h'

/-- A painted text is the text with colors put in, whatever the palette. -/
theorem paint {p : Palette} (plain : p.enabled = false) (p' : Palette) (color : Color)
    (text : String) : Tinted (p.paint color text) (p'.paint color text) := by
  have switches : color.code ∈ codes := by
    cases color <;> simp [codes]
  unfold Palette.paint
  rw [plain, if_neg Bool.false_ne_true]
  split
  · unfold Tinted
    rw [String.toList_append, String.toList_append, List.append_assoc]
    refine .code switches ?_
    have ends : Tints [] (plainCode.toList ++ []) := .code (by simp [codes]) .nil
    simpa using (Tints.refl text.toList).append ends
  · exact refl text

theorem uncolored {plain tinted : String} (h : Tinted plain tinted)
    (unescaped : '\x1b' ∉ plain.toList) : Palette.uncolored tinted = plain := by
  rw [Palette.uncolored, Tints.uncolor h unescaped, String.ofList_toList]

end Tinted

end Palette

end RemoteDesk
