import RemoteDesk.Json.Source

/-! # Strings of JSON

A string is printed character by character, and each character is printed in a form that is read
back as one piece. Whatever a string contains, no control character is printed.
-/

namespace RemoteDesk.Json

/-- Control characters are not printed, so what is printed stays on its line. -/
def Clean (cs : List Char) : Prop :=
  ∀ c ∈ cs, 32 ≤ c.toNat

theorem clean_nil : Clean [] := by
  simp [Clean]

theorem clean_cons {c : Char} {cs : List Char} : Clean (c :: cs) ↔ 32 ≤ c.toNat ∧ Clean cs := by
  simp [Clean]

theorem clean_append {cs ds : List Char} : Clean (cs ++ ds) ↔ Clean cs ∧ Clean ds := by
  simp [Clean, or_imp, forall_and]

/-- A character that is printed breaks no line. -/
theorem not_break {c : Char} (h : 32 ≤ c.toNat) : c ≠ '\n' ∧ c ≠ '\r' := by
  constructor
  · rintro rfl
    exact absurd h (by decide)
  · rintro rfl
    exact absurd h (by decide)

/-! ## Characters -/

/-- The piece that a printed character is read as. -/
def letter (c : Char) : Letter :=
  if c.toNat < 32 ∧ c ≠ '\n' ∧ c ≠ '\r' ∧ c ≠ '\t' ∧ c.toNat ≠ 8 ∧ c.toNat ≠ 12 then
    .unit c.toNat
  else .plain c

/-- One more piece in front of what was read. -/
def push (first : Letter) (read : Option (List Letter × List Char)) :
    Option (List Letter × List Char) :=
  read.map fun (letters, after) => (first :: letters, after)

section Pieces

variable (rest : List Char)

theorem readLetters_plain {c : Char} (quote : c ≠ '"') (backslash : c ≠ '\\')
    (printed : 32 ≤ c.toNat) :
    Source.readLetters (c :: rest) = push (.plain c) (Source.readLetters rest) := by
  rw [Source.readLetters.eq_def]
  simp only [quote, backslash, Nat.not_lt.mpr printed, if_false]
  cases Source.readLetters rest <;> rfl

/-- The characters with a short form, and the character that stands for each behind a backslash. -/
def shortForms : List (Char × Char) :=
  [('"', '"'), ('\\', '\\'), ('\n', 'n'), ('\r', 'r'), ('\t', 't'), ('\x08', 'b'), ('\x0c', 'f')]

theorem readLetters_short {c e : Char} (short : (c, e) ∈ shortForms) :
    Source.readLetters ('\\' :: e :: rest) = push (.plain c) (Source.readLetters rest) := by
  simp only [shortForms, List.mem_cons, Prod.mk.injEq, List.not_mem_nil, or_false] at short
  rcases short with ⟨rfl, rfl⟩ | ⟨rfl, rfl⟩ | ⟨rfl, rfl⟩ | ⟨rfl, rfl⟩ | ⟨rfl, rfl⟩ | ⟨rfl, rfl⟩ |
    ⟨rfl, rfl⟩
  all_goals
    rw [Source.readLetters.eq_def]
    cases read : Source.readLetters rest <;> simp [push, read]

theorem hexValue?_hexDigit {n : Nat} (h : n < 16) : Source.hexValue? (hexDigit n) = some n := by
  have all : ∀ n < 16, Source.hexValue? (hexDigit n) = some n := by decide
  exact all n h

theorem readLetters_unit {n : Nat} (h : n < 32) :
    Source.readLetters
        ('\\' :: 'u' :: '0' :: '0' :: hexDigit (n / 16) :: hexDigit (n % 16) :: rest) =
      push (.unit n) (Source.readLetters rest) := by
  have number : (0 * 16 + 0) * 16 + n / 16 = n / 16 := by omega
  have whole : n / 16 * 16 + n % 16 = n := by omega
  have zero : Source.hexValue? '0' = some 0 := rfl
  have high := hexValue?_hexDigit (n := n / 16) (by omega)
  have low := hexValue?_hexDigit (n := n % 16) (by omega)
  rw [Source.readLetters.eq_def]
  simp only [zero, high, low, bind, Option.bind_some, number, whole]
  cases Source.readLetters rest <;> rfl

end Pieces

/-- A character is printed as itself, in a short form, or by its number. -/
theorem escapeChar_cases (c : Char) :
    (∃ e, (c, e) ∈ shortForms ∧ escapeChar c = ['\\', e] ∧ letter c = .plain c) ∨
    (c.toNat < 32 ∧ letter c = .unit c.toNat ∧
      escapeChar c = ['\\', 'u', '0', '0', hexDigit (c.toNat / 16), hexDigit (c.toNat % 16)]) ∨
    (c ≠ '"' ∧ c ≠ '\\' ∧ 32 ≤ c.toNat ∧ escapeChar c = [c] ∧ letter c = .plain c) := by
  by_cases short : c ∈ shortForms.map Prod.fst
  · have all : ∀ form ∈ shortForms,
        escapeChar form.1 = ['\\', form.2] ∧ letter form.1 = .plain form.1 := by decide
    obtain ⟨⟨_, e⟩, member, rfl⟩ := List.mem_map.mp short
    exact .inl ⟨e, member, all _ member⟩
  · simp only [shortForms, List.map_cons, List.map_nil, List.mem_cons, List.not_mem_nil, or_false,
      not_or] at short
    obtain ⟨quote, backslash, feed, carriage, tab, back, form⟩ := short
    have back' : c.toNat ≠ 8 := fun same => back (by rw [← Char.ofNat_toNat c, same])
    have form' : c.toNat ≠ 12 := fun same => form (by rw [← Char.ofNat_toNat c, same])
    by_cases control : c.toNat < 32
    · refine .inr (.inl ⟨control, ?_, ?_⟩)
      · simp [letter, control, feed, carriage, tab, back', form']
      · simp [escapeChar, control, quote, backslash, feed, carriage, tab, back', form']
    · refine .inr (.inr ⟨quote, backslash, Nat.le_of_not_lt control, ?_, ?_⟩)
      · simp [escapeChar, control, quote, backslash, feed, carriage, tab, back', form']
      · simp [letter, control]

theorem readLetters_escapeChar (c : Char) (rest : List Char) :
    Source.readLetters (escapeChar c ++ rest) = push (letter c) (Source.readLetters rest) := by
  rcases escapeChar_cases c with
    ⟨e, short, printed, read⟩ | ⟨control, read, printed⟩ |
      ⟨quote, backslash, visible, printed, read⟩
  · rw [printed, read]
    exact readLetters_short rest short
  · rw [printed, read]
    exact readLetters_unit rest control
  · rw [printed, read]
    exact readLetters_plain rest quote backslash visible

theorem clean_escapeChar (c : Char) : Clean (escapeChar c) := by
  rcases escapeChar_cases c with
    ⟨e, short, printed, -⟩ | ⟨control, -, printed⟩ | ⟨-, -, visible, printed, -⟩
  · have all : ∀ form ∈ shortForms, 32 ≤ form.2.toNat := by decide
    simpa [printed, Clean] using all _ short
  · have digits : ∀ n < 16, 32 ≤ (hexDigit n).toNat := by decide
    have high := digits (c.toNat / 16) (by omega)
    have low := digits (c.toNat % 16) (by omega)
    simpa [printed, Clean] using ⟨high, low⟩
  · simpa [printed, Clean] using visible

/-! ## Strings -/

/-- The pieces that a printed string is read as. -/
def letters (s : String) : List Letter :=
  s.toList.map letter

theorem readLetters_printed (s : String) (rest : List Char) :
    Source.readLetters (s.toList.flatMap escapeChar ++ '"' :: rest) = some (letters s, rest) := by
  unfold letters
  generalize s.toList = cs
  induction cs with
  | nil => simp [Source.readLetters.eq_def]
  | cons c others ih =>
      rw [List.flatMap_cons, List.append_assoc, readLetters_escapeChar, ih]
      rfl

theorem spell_letter (c : Char) (rest : List Letter) :
    Source.spell (letter c :: rest) = (Source.spell rest).map (c :: ·) := by
  unfold letter
  split
  · next control =>
      have low : c.toNat < 0xd800 ∨ 0xdfff < c.toNat := by omega
      rw [Source.spell.eq_def]
      simp only [if_pos low, Char.ofNat_toNat]
  · rw [Source.spell.eq_def]

/-- A printed string is read as itself. -/
theorem text?_letters (s : String) : Source.text? (letters s) = some s := by
  have spelled : Source.spell (letters s) = some s.toList := by
    unfold letters
    generalize s.toList = cs
    induction cs with
    | nil => rfl
    | cons c others ih => rw [List.map_cons, spell_letter, ih, Option.map_some]
  rw [Source.text?, spelled, Option.map_some, String.ofList_toList]

theorem clean_printString (s : String) : Clean (printString s) := by
  have inside : Clean (s.toList.flatMap escapeChar) := by
    intro c member
    obtain ⟨d, -, within⟩ := List.mem_flatMap.mp member
    exact clean_escapeChar d c within
  simp [printString, clean_cons, clean_append, inside, clean_nil]

end RemoteDesk.Json
