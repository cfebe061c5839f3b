import RemoteDesk.Yaml.Character

/-! # Printable text

What is written without an escape is allowed in a text, and nothing in it is rewritten when line
breaks are joined. Letters, digits and underscores are printable, and they mean nothing but
themselves: words of them part no lines, end no other words and start no tokens of their own.
-/

namespace RemoteDesk.Yaml

theorem ne_of_class {p : Char → Bool} {c d : Char} (h : p c) (other : p d = false) : c ≠ d := by
  rintro rfl
  exact absurd h (by simp [other])

section Printable

variable {c : Char} (h : isPrintable c)

include h

theorem isAllowed_of_isPrintable : isAllowed c := by
  simp only [isPrintable, isAllowed, Bool.or_eq_true, Bool.and_eq_true, beq_iff_eq,
    decide_eq_true_eq] at h ⊢
  omega

/-- The only white space that is printable is a space. -/
theorem isWhite_of_isPrintable : isWhite c = (c == ' ') := by
  have tab : c ≠ '\t' := ne_of_class h rfl
  simp [isWhite, tab]

end Printable

/-- Nothing in a text has to be written as an escape. -/
def Printable (cs : List Char) : Prop :=
  ∀ c ∈ cs, isPrintable c

instance (cs : List Char) : Decidable (Printable cs) :=
  decidable_of_iff (cs.all isPrintable) List.all_eq_true

theorem printable_nil : Printable [] :=
  List.forall_mem_nil _

theorem printable_cons {c : Char} {cs : List Char} :
    Printable (c :: cs) ↔ isPrintable c ∧ Printable cs :=
  List.forall_mem_cons

theorem printable_append {cs ds : List Char} : Printable (cs ++ ds) ↔ Printable cs ∧ Printable ds :=
  List.forall_mem_append

theorem joinBreaks_of_printable {cs : List Char} (h : Printable cs) : joinBreaks cs = cs := by
  induction cs with
  | nil => rfl
  | cons c cs ih =>
      obtain ⟨printable, others⟩ := printable_cons.mp h
      have carriage : c ≠ '\r' := ne_of_class printable rfl
      have nextLine : c ≠ '\u0085' := ne_of_class printable rfl
      have later := ih others
      rw [joinBreaks.eq_def]
      simp [carriage, nextLine, later]

/-! ## Words -/

/-- Letters, digits and underscores mean nothing but themselves. -/
def isWordChar (c : Char) : Bool :=
  c.isAlphanum || c == '_'

/-- Shows something and has no meaning of its own. -/
structure Visible (c : Char) : Prop where
  printable : isPrintable c
  white : isWhite c = false
  content : isBreak c = false
  indicator : isIndicator c = false

theorem toNat_of_isWordChar {c : Char} (h : isWordChar c) : c.toNat < 128 := by
  have below {d : Char} (least : c.val ≤ d.val) (small : d.toNat < 128) : c.toNat < 128 :=
    Nat.lt_of_le_of_lt (UInt32.le_iff_toNat_le.mp least) small
  rcases (Bool.or_eq_true _ _).mp h with alphanum | line
  · rcases (Bool.or_eq_true _ _).mp alphanum with letter | digit
    · rcases (Bool.or_eq_true _ _).mp letter with upper | lower
      · exact below (d := 'Z') (of_decide_eq_true upper).2 (by decide)
      · exact below (d := 'z') (of_decide_eq_true ((Bool.and_eq_true _ _).mp lower).2) (by decide)
    · exact below (d := '9') (of_decide_eq_true ((Bool.and_eq_true _ _).mp digit).2) (by decide)
  · obtain rfl := eq_of_beq line
    decide

theorem visible_of_isWordChar {c : Char} (h : isWordChar c) : Visible c := by
  have all : ∀ n < 128, isWordChar (Char.ofNat n) →
      isPrintable (Char.ofNat n) ∧ isWhite (Char.ofNat n) = false ∧
        isBreak (Char.ofNat n) = false ∧ isIndicator (Char.ofNat n) = false := by
    decide
  have here := all c.toNat (toNat_of_isWordChar h) (by simpa using h)
  rw [Char.ofNat_toNat] at here
  exact ⟨here.1, here.2.1, here.2.2.1, here.2.2.2⟩

/-- At least one character, and all of them letters, digits or underscores. -/
structure IsWord (cs : List Char) : Prop where
  nonempty : cs ≠ []
  chars : ∀ c ∈ cs, isWordChar c

theorem IsWord.visible {cs : List Char} (h : IsWord cs) : ∀ c ∈ cs, Visible c :=
  fun c member => visible_of_isWordChar (h.chars c member)

/-- Nothing is left, or a word starts here. -/
def AtWord (cs : List Char) : Prop :=
  cs.head?.all isWordChar

theorem IsWord.atWord {cs : List Char} (h : IsWord cs) (more : List Char) :
    AtWord (cs ++ more) := by
  obtain ⟨c, rest, rfl⟩ := List.exists_cons_of_ne_nil h.nonempty
  exact h.chars c List.mem_cons_self

/-- A word that goes on still does when more text follows. -/
theorem wordEnds_append {cs : List Char} (goesOn : wordEnds cs = false) (tail : List Char) :
    wordEnds (cs ++ tail) = false := by
  cases cs with
  | nil => cases goesOn
  | cons c cs => exact goesOn

end RemoteDesk.Yaml
