import Mathlib.Algebra.Group.Nat.Defs
import RemoteDesk.Proofs.Yaml.Characters
import RemoteDesk.Yaml.Writing

/-! # What is written

A scalar is written in one of four styles, each only if the text fits it. Whatever the style and the
text, all that is written is printable: so it may occur in a text, and it stays what it is when the
text is read.
-/

namespace RemoteDesk.Yaml.Writing

/-- How a text fits the style in which it is written. Any text fits double quotes. -/
theorem style_cases (s : String) :
    (style s = .literal ∧ s.toList ≠ [] ∧ fitsLiteral s.toList) ∨
    (style s = .plain ∧ Meaning.ofText s = .text ∧ fitsPlain s.toList) ∨
    (style s = .single ∧ '\n' ∉ s.toList ∧ fitsSingle s.toList) ∨ style s = .double := by
  simp only [style]
  by_cases feed : '\n' ∈ s.toList
  · rw [if_pos feed]
    by_cases fits : fitsLiteral s.toList
    · exact .inl ⟨if_pos fits, List.ne_nil_of_mem feed, fits⟩
    · exact .inr (.inr (.inr (if_neg fits)))
  · rw [if_neg feed]
    by_cases words : Meaning.ofText s = .text ∧ !Meaning.isPadded s.toList ∧ fitsPlain s.toList
    · exact .inr (.inl ⟨if_pos words, words.1, words.2.2⟩)
    · rw [if_neg words]
      by_cases fits : fitsSingle s.toList
      · exact .inr (.inr (.inl ⟨if_pos fits, feed, fits⟩))
      · exact .inr (.inr (.inr (if_neg fits)))

/-! ## Characters in double quotes -/

/-- The letters before the digits of a number, and how many digits there are. -/
def hexForms : List (Char × Nat) :=
  [('x', 2), ('u', 4), ('U', 8)]

/-- A character is written as a letter after a backslash, as itself, or by its number. -/
theorem doubleChar_cases (c : Char) :
    (∃ letter, letter? c = some letter ∧ doubleChar c = ['\\', letter]) ∨
    (letter? c = none ∧ isPrintable c ∧ doubleChar c = [c]) ∨
    (∃ mark count, (mark, count) ∈ hexForms ∧ c.toNat < 16 ^ count ∧
      doubleChar c = '\\' :: mark :: hexDigits c.toNat count) := by
  cases short : letter? c with
  | some letter => exact .inl ⟨letter, rfl, by simp only [doubleChar, short]⟩
  | none =>
      by_cases printable : isPrintable c
      · exact .inr (.inl ⟨rfl, printable, by simp only [doubleChar, short, printable, if_true]⟩)
      · refine .inr (.inr ?_)
        simp only [doubleChar, short, printable]
        by_cases two : c.toNat < 0x100
        · exact ⟨'x', 2, by decide, two, if_pos two⟩
        · by_cases four : c.toNat < 0x10000
          · exact ⟨'u', 4, by decide, four, (if_neg two).trans (if_pos four)⟩
          · have valid : c.toNat < 0xd800 ∨ 0xdfff < c.toNat ∧ c.toNat < 0x110000 := c.valid
            exact ⟨'U', 8, by decide, by omega, (if_neg two).trans (if_neg four)⟩

/-! ## Printable characters -/

theorem printable_indentation : Printable indentation := by
  decide

section Printable

variable {cs : List Char} (h : Printable cs)

include h

theorem printable_indentLines (startsLine : Bool) : Printable (indentLines startsLine cs) := by
  induction cs generalizing startsLine with
  | nil => exact printable_nil
  | cons c cs ih =>
      obtain ⟨first, others⟩ := printable_cons.mp h
      have margin : Printable (if startsLine then indentation else []) := by
        cases startsLine
        · exact printable_nil
        · exact printable_indentation
      cases content : isBreak c with
      | true => simpa [indentLines, content, printable_cons] using ⟨first, ih others true⟩
      | false =>
          simpa [indentLines, content, printable_cons, printable_append] using
            ⟨margin, first, ih others false⟩

theorem printable_single : Printable (single cs) := by
  have doubled : Printable (cs.flatMap fun c => if c = '\'' then ['\'', '\''] else [c]) := by
    intro d member
    obtain ⟨c, among, inForm⟩ := List.mem_flatMap.mp member
    split at inForm <;> simp_all [Printable]
  have margin : Printable (if cs.getLast?.any isBreak then indentation else []) := by
    split
    · exact printable_indentation
    · exact printable_nil
  have quote : isPrintable '\'' := rfl
  simp only [single, printable_cons, printable_append]
  exact ⟨⟨⟨quote, printable_indentLines doubled false⟩, margin⟩, quote, printable_nil⟩

theorem printable_literal : Printable (literal cs) := by
  have hints : Printable (literalHints cs) := by
    refine printable_append.mpr ⟨?_, ?_⟩
    · split <;> decide
    · split
      · decide
      · split
        · decide
        · split <;> decide
  have close : Printable (if cs.getLast?.any isBreak then [] else ['\n']) := by
    split <;> decide
  simp only [literal, printable_cons, printable_append]
  exact ⟨⟨⟨rfl, hints⟩, rfl, printable_indentLines h true⟩, close⟩

end Printable

theorem printable_hexDigits (n count : Nat) : Printable (hexDigits n count) := by
  induction count generalizing n with
  | zero => exact printable_nil
  | succ count ih =>
      have digits : ∀ d < 16, isPrintable (hexDigit d) := by decide
      rw [hexDigits, printable_append, printable_cons]
      exact ⟨ih (n / 16), digits _ (Nat.mod_lt n (by decide)), printable_nil⟩

theorem printable_letter {c letter : Char} (h : letter? c = some letter) : isPrintable letter := by
  unfold letter? at h
  split at h <;> cases h <;> decide

theorem printable_doubleChar (c : Char) : Printable (doubleChar c) := by
  rcases doubleChar_cases c with
    ⟨letter, short, written⟩ | ⟨-, printable, written⟩ | ⟨mark, count, form, -, written⟩
  · rw [written]
    exact printable_cons.mpr ⟨rfl, printable_cons.mpr ⟨printable_letter short, printable_nil⟩⟩
  · rw [written]
    exact printable_cons.mpr ⟨printable, printable_nil⟩
  · have marks : ∀ form ∈ hexForms, isPrintable form.1 := by decide
    rw [written]
    exact printable_cons.mpr
      ⟨rfl, printable_cons.mpr ⟨marks _ form, printable_hexDigits c.toNat count⟩⟩

theorem printable_double (cs : List Char) : Printable (double cs) := by
  have quote : isPrintable '"' := rfl
  have inside : Printable (cs.flatMap doubleChar) := by
    intro d member
    obtain ⟨c, -, inForm⟩ := List.mem_flatMap.mp member
    exact printable_doubleChar c d inForm
  simp only [double, printable_cons, printable_append]
  exact ⟨⟨quote, inside⟩, quote, printable_nil⟩

/-- Whatever a text contains, it is written with printable characters. -/
theorem printable_scalar (s : String) : Printable (scalar s) := by
  have feed : Printable ['\n'] := printable_cons.mpr ⟨rfl, printable_nil⟩
  unfold scalar
  rcases style_cases s with ⟨how, -, fits⟩ | ⟨how, -, fits⟩ | ⟨how, -, fits⟩ | how
  · simp only [fitsLiteral, Bool.and_eq_true, List.all_eq_true] at fits
    rw [how]
    exact printable_literal fits.1.1
  · simp only [fitsPlain, Bool.and_eq_true, List.all_eq_true] at fits
    rw [how]
    exact printable_append.mpr ⟨fun c member => (fits.1.1.2 c member).1, feed⟩
  · simp only [fitsSingle, Bool.and_eq_true, List.all_eq_true] at fits
    rw [how]
    exact printable_append.mpr ⟨printable_single fits.1.1, feed⟩
  · rw [how]
    exact printable_append.mpr ⟨printable_double s.toList, feed⟩

end RemoteDesk.Yaml.Writing
