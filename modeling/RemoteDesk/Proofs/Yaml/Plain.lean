import RemoteDesk.Proofs.Yaml.Characters
import RemoteDesk.Yaml.Plain
import RemoteDesk.Yaml.Writing

/-! # Plain scalars read back

A text is written plain only if it has no colon that ends a word and no comment sign that starts
one. So nothing in it ends the scalar, and it is read to whatever ends it.
-/

namespace RemoteDesk.Yaml.Plain

open Writing

section Words

variable {margin : Nat}

theorem stopsAfter_within {whites : List Char} {c : Char} (sign : whites ≠ [] → c ≠ '#')
    (rest : List Char) : stopsAfter false margin (.within whites) (c :: rest) = false := by
  cases whites with
  | nil => rfl
  | cons w whites => simp [stopsAfter, Gap.isBefore, Gap.column?, sign]

theorem stopsAt_append {c : Char} {cs : List Char} (colon : (c == ':' && wordEnds cs) = false)
    (tail : List Char) : stopsAt false c (cs ++ tail) = false := by
  cases cs with
  | nil =>
      have other : (c == ':') = false := by simpa [wordEnds] using colon
      simp [stopsAt, other]
  | cons d cs => simpa [stopsAt, wordEnds] using colon

/-- Nothing in a row of words ends a plain scalar. White space may be pending before them. -/
theorem read_append (whites : List Char) {tail rest : List Char} {overLines : Bool}
    (stops : read false margin .empty tail = .ok ⟨[], rest, overLines⟩)
    {cs : List Char} {afterWord : Bool} (unmarked : hasMark afterWord cs = false)
    (pending : whites ≠ [] → afterWord ∧ cs ≠ []) (oneLine : ∀ c ∈ cs, isBreak c = false)
    (ends : cs.getLast?.all fun c => !isWhite c) :
    read false margin (.within whites) (cs ++ tail) = .ok ⟨whites ++ cs, rest, overLines⟩ := by
  -- White space is held back until a character that shows something follows, and a comment sign
  -- counts only behind white space. So both what is held back and what came last are general.
  induction cs generalizing whites afterWord with
  | nil =>
      cases whites with
      | nil => exact stops
      | cons w whites => exact absurd rfl (pending (List.cons_ne_nil w whites)).2
  | cons c cs ih =>
      simp only [hasMark, Bool.or_eq_false_iff] at unmarked
      obtain ⟨⟨colon, sign⟩, later⟩ := unmarked
      obtain ⟨content, oneLine'⟩ := List.forall_mem_cons.mp oneLine
      have ends' : cs.getLast?.all fun c => !isWhite c := by
        cases cs with
        | nil => rfl
        | cons d cs => simpa using ends
      rw [List.cons_append, read]
      by_cases white : isWhite c
      · have known : whites ++ [c] ≠ [] → (isWhite c || isBreak c) ∧ cs ≠ [] := by
          refine fun _ => ⟨by simp [white], ?_⟩
          rintro rfl
          simp [white] at ends
        rw [if_pos white, if_neg (by simp [Gap.isBefore, Gap.column?]), Gap.white,
          ih _ later known oneLine' ends', List.append_assoc, List.singleton_append]
      · have noSign : whites ≠ [] → c ≠ '#' := by
          rintro nonempty rfl
          simp [(pending nonempty).1] at sign
        have fresh := ih [] later (fun nonempty => absurd rfl nonempty) oneLine' ends'
        rw [if_neg white, if_neg (by simp [content]), stopsAfter_within noSign,
          stopsAt_append colon, Gap.empty, fresh]
        rfl

end Words

/-- A plain scalar that was written on a line is read to the end of that line, if a word starts
    the next one. -/
theorem read_line {margin : Nat} (inside : 0 < margin) {cs more : List Char}
    (fits : fitsPlain cs) (next : AtWord more) :
    read false margin .empty (cs ++ '\n' :: more) = .ok ⟨cs, more, true⟩ := by
  have stops : read false margin .empty ('\n' :: more) = .ok ⟨[], more, true⟩ := by
    cases more with
    | nil => rfl
    | cons c more =>
        have visible : Visible c := visible_of_isWordChar next
        have outside : stopsAfter false margin (.across ['\n'] 0) (c :: more) := by
          simp [stopsAfter, Gap.isBefore, Gap.column?, Gap.empty, inside]
        rw [read, if_neg (by decide), if_pos (by decide)]
        rw [read, if_neg (by simp [visible.white]), if_neg (by simp [visible.content])]
        exact if_pos outside
  simp only [fitsPlain, Bool.and_eq_true, Bool.not_eq_true', List.all_eq_true] at fits
  obtain ⟨⟨⟨⟨-, unmarked⟩, visible⟩, -⟩, last⟩ := fits
  refine read_append [] stops unmarked (fun nonempty => absurd rfl nonempty)
    (fun c h => (visible c h).2) ?_
  cases found : cs.getLast? with
  | none => rfl
  | some c =>
      have printable := (visible c (List.mem_of_getLast? found)).1
      simpa [found, isWhite_of_isPrintable printable] using last

/-- The character starts something else than a plain scalar. -/
def startsOther (c : Char) (after : List Char) : Bool :=
  if c == '-' || c == '?' || c == ':' then wordEnds after else isIndicator c

theorem startsOther_append {c : Char} {after : List Char} (h : startsOther c after = false)
    (tail : List Char) : startsOther c (after ++ tail) = false := by
  unfold startsOther at h ⊢
  split at h
  · next special => rw [if_pos special, wordEnds_append h]
  · next other => rw [if_neg other, h]

/-- The first character of what is written plain starts nothing else. -/
theorem start_of_fitsPlain {cs : List Char} (fits : fitsPlain cs) :
    ∃ c rest, cs = c :: rest ∧ isPrintable c ∧ isWhite c = false ∧ isBreak c = false ∧
      startsOther c rest = false := by
  simp only [fitsPlain, Bool.and_eq_true, Bool.not_eq_true', List.all_eq_true] at fits
  obtain ⟨⟨⟨⟨marked, -⟩, visible⟩, first⟩, -⟩ := fits
  cases cs with
  | nil => cases marked
  | cons c rest =>
      obtain ⟨printable, content⟩ := visible c List.mem_cons_self
      have white : isWhite c = false := by
        simpa [isWhite_of_isPrintable printable] using first
      refine ⟨c, rest, rfl, printable, white, content, ?_⟩
      unfold startsMarked at marked
      split at marked
      · cases marked
      · cases marked
      · contradiction
      · next same =>
          obtain ⟨rfl, rfl⟩ := List.cons.inj same
          exact marked

/-! ## Single words -/

theorem startsOther_of_isWordChar {c : Char} (h : isWordChar c) (after : List Char) :
    startsOther c after = false := by
  have dash : c ≠ '-' := ne_of_class h rfl
  have query : c ≠ '?' := ne_of_class h rfl
  have colon : c ≠ ':' := ne_of_class h rfl
  simp [startsOther, dash, query, colon, (visible_of_isWordChar h).indicator]

theorem hasMark_of_word {cs : List Char} (word : ∀ c ∈ cs, isWordChar c) (afterWord : Bool) :
    hasMark afterWord cs = false := by
  induction cs generalizing afterWord with
  | nil => rfl
  | cons c cs ih =>
      obtain ⟨first, others⟩ := List.forall_mem_cons.mp word
      have colon : c ≠ ':' := ne_of_class first rfl
      have sign : c ≠ '#' := ne_of_class first rfl
      simp [hasMark, colon, sign, ih others]

section Word

variable {cs : List Char} (word : IsWord cs)

include word

theorem getLast_of_word : cs.getLast?.all fun c => !isWhite c := by
  cases found : cs.getLast? with
  | none => rfl
  | some c =>
      have visible := word.visible c (List.mem_of_getLast? found)
      simp [visible.white]

/-- A key is read to its colon. -/
theorem read_key (margin : Nat) (rest : List Char) :
    read false margin .empty (cs ++ ':' :: ' ' :: rest) = .ok ⟨cs, ':' :: ' ' :: rest, false⟩ :=
  read_append [] rfl (hasMark_of_word word.chars true) (fun nonempty => absurd rfl nonempty)
    (fun c h => (word.visible c h).content) (getLast_of_word word)

theorem startsMarked_of_word : startsMarked cs = false := by
  obtain ⟨c, rest, rfl⟩ := List.exists_cons_of_ne_nil word.nonempty
  have first : isWordChar c := word.chars c List.mem_cons_self
  have dash : c ≠ '-' := ne_of_class first rfl
  have query : c ≠ '?' := ne_of_class first rfl
  have colon : c ≠ ':' := ne_of_class first rfl
  have dot : c ≠ '.' := ne_of_class first rfl
  simp [startsMarked, dash, query, colon, dot, (visible_of_isWordChar first).indicator]

theorem fitsPlain_of_word : fitsPlain cs := by
  have visible : ∀ c ∈ cs, isPrintable c ∧ isBreak c = false := fun c h =>
    ⟨(word.visible c h).printable, (word.visible c h).content⟩
  have noSpace : ' ' ∉ cs := fun h => absurd (word.chars _ h) (by decide)
  have first : cs.head? ≠ some ' ' := fun h => noSpace (List.mem_of_head? h)
  have last : cs.getLast? ≠ some ' ' := fun h => noSpace (List.mem_of_getLast? h)
  simpa [fitsPlain, startsMarked_of_word word, hasMark_of_word word.chars, first, last]
    using visible

end Word

end RemoteDesk.Yaml.Plain
