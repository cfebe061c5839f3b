import RemoteDesk.Proofs.Yaml.Writing
import RemoteDesk.Yaml.Quoted

/-! # Quoted scalars read back

In double quotes every character is written in a form that is read back as that character: as a
letter after a backslash, by its number, or as itself. Line breaks are written as escapes, so a gap
between words is only ever white space within a line, and it stands for itself.

In single quotes the line breaks that are no line feeds stay what they are. Each is followed by
indentation, which is no part of the text, so no space may stand next to it.
-/

namespace RemoteDesk.Yaml.Quoted

open Writing

/-! ## Double quotes -/

theorem escape_of_letter {c letter : Char} (h : letter? c = some letter) :
    isBreak letter = false ∧ hexDigits letter = 0 ∧ escaped? letter = some c := by
  unfold letter? at h
  split at h <;> cases h <;> decide

theorem hexValue?_hexDigit {d : Nat} (h : d < 16) : hexValue? (hexDigit d) = some d := by
  have all : ∀ d < 16, hexValue? (hexDigit d) = some d := by decide
  exact all d h

section Digits

variable (g : Gap) (tail : List Char)

theorem readDouble_digit {d : Nat} (h : d < 16) {pending : Nat} (more : 0 < pending)
    (code : Nat) :
    readDouble g (pending + 1) code (hexDigit d :: tail) =
      readDouble g pending (code * 16 + d) tail := by
  rw [readDouble.eq_def]
  simp [hexValue?_hexDigit h, more]

/-- The digits of a number are read while more are to come. -/
theorem readDouble_digits (n : Nat) {pending : Nat} (more : 0 < pending) (count code : Nat) :
    readDouble g (count + pending) code (Writing.hexDigits n count ++ tail) =
      readDouble g pending (code * 16 ^ count + n % 16 ^ count) tail := by
  induction count generalizing n pending tail with
  | zero => simp [Writing.hexDigits, Nat.mod_one]
  | succ count ih =>
      have digit : n % 16 < 16 := Nat.mod_lt n (by decide)
      have shift : (code * 16 ^ count + n / 16 % 16 ^ count) * 16 + n % 16 =
          code * 16 ^ (count + 1) + n % 16 ^ (count + 1) := by
        rw [Nat.pow_succ', Nat.mod_mul, Nat.mul_left_comm]
        omega
      rw [Writing.hexDigits, List.append_assoc, List.singleton_append,
        Nat.add_right_comm, Nat.add_assoc, ih _ _ (Nat.succ_pos pending),
        readDouble_digit g tail digit more, shift]

/-- The last digit of a number ends a character. -/
theorem readDouble_number {c : Char} (count : Nat) (fits : c.toNat < 16 ^ (count + 1)) :
    readDouble g (count + 1) 0 (Writing.hexDigits c.toNat (count + 1) ++ tail) =
      readDouble.extend g c (readDouble .empty 0 0 tail) := by
  have digit : c.toNat % 16 < 16 := Nat.mod_lt _ (by decide)
  have high : c.toNat / 16 % 16 ^ count = c.toNat / 16 :=
    Nat.mod_eq_of_lt (Nat.div_lt_of_lt_mul (by rwa [← Nat.pow_succ']))
  have whole : c.toNat / 16 * 16 + c.toNat % 16 = c.toNat := Nat.div_add_mod' _ _
  have number : charOf? c.toNat = some c := by
    have valid : c.toNat.isValidChar := c.valid
    rw [charOf?, if_pos valid, Char.ofNat_toNat]
  rw [Writing.hexDigits, List.append_assoc, List.singleton_append,
    readDouble_digits g _ _ Nat.one_pos, high, readDouble.eq_def]
  simp [hexValue?_hexDigit digit, whole, number]

end Digits

section Characters

variable (tail : List Char)

theorem backslash_content : isWhite '\\' = false ∧ isBreak '\\' = false := ⟨rfl, rfl⟩

theorem readDouble_letter {c letter : Char} (escape : letter? c = some letter) (g : Gap) :
    readDouble g 0 0 ('\\' :: letter :: tail) =
      readDouble.extend g c (readDouble .empty 0 0 tail) := by
  obtain ⟨content, number, meaning⟩ := escape_of_letter escape
  have uncut : isCut g ('\\' :: letter :: tail) = false := by simp [isCut, isDocumentMark]
  rw [readDouble.eq_def]
  simp [backslash_content, uncut, content, number, meaning]

theorem readDouble_hex {mark c : Char} {count : Nat} (form : (mark, count) ∈ hexForms)
    (fits : c.toNat < 16 ^ count) (g : Gap) :
    readDouble g 0 0 ('\\' :: mark :: (Writing.hexDigits c.toNat count ++ tail)) =
      readDouble.extend g c (readDouble .empty 0 0 tail) := by
  have known : ∀ form ∈ hexForms,
      isBreak form.1 = false ∧ hexDigits form.1 = form.2 ∧ form.2 - 1 + 1 = form.2 := by
    decide
  obtain ⟨content, number, counted⟩ := known _ form
  have uncut (cs : List Char) : isCut g ('\\' :: cs) = false := by simp [isCut, isDocumentMark]
  have more : 0 < count := by omega
  have read := readDouble_number g tail (c := c) (count - 1) (counted.symm ▸ fits)
  rw [counted] at read
  rw [← read, readDouble.eq_def]
  simp [backslash_content, uncut, content, number, more]

theorem readDouble_itself {c : Char} (white : isWhite c = false) (content : isBreak c = false)
    (quote : c ≠ '"') (backslash : c ≠ '\\') (whites : List Char) :
    readDouble (.within whites) 0 0 (c :: tail) =
      readDouble.extend (.within whites) c (readDouble .empty 0 0 tail) := by
  have uncut : isCut (.within whites) (c :: tail) = false := by
    simp [isCut, Gap.isBefore, Gap.column?]
  rw [readDouble.eq_def]
  simp [white, content, uncut, quote, backslash]

/-- Every character but a space ends the gap before it. -/
theorem readDouble_doubleChar {c : Char} (visible : c ≠ ' ') (whites : List Char) :
    readDouble (.within whites) 0 0 (doubleChar c ++ tail) =
      readDouble.extend (.within whites) c (readDouble .empty 0 0 tail) := by
  rcases doubleChar_cases c with
    ⟨letter, short, written⟩ | ⟨unlettered, printable, written⟩ | ⟨mark, count, form, fits, written⟩
  · rw [written]
    exact readDouble_letter tail short _
  · have other {d : Char} (escaped : (letter? d).isSome) : c ≠ d := by
      rintro rfl
      simp [unlettered] at escaped
    have white : isWhite c = false := by
      simpa [isWhite_of_isPrintable printable] using visible
    have content : isBreak c = false := by
      simp [isBreak, other (d := '\n') rfl, other (d := '\u2028') rfl, other (d := '\u2029') rfl]
    rw [written]
    exact readDouble_itself tail white content (other rfl) (other rfl) whites
  · rw [written]
    exact readDouble_hex tail form fits _

end Characters

/-- A text in double quotes is read back. Spaces before it may still be pending. -/
theorem readDouble_written (cs whites rest : List Char) :
    readDouble (.within whites) 0 0 (cs.flatMap doubleChar ++ '"' :: rest) =
      .ok (whites ++ cs, rest) := by
  induction cs generalizing whites with
  | nil =>
      have uncut : isCut (.within whites) ('"' :: rest) = false := by simp [isCut, isDocumentMark]
      rw [List.flatMap_nil, List.nil_append, readDouble.eq_def]
      simp [isWhite, isBreak, uncut, Gap.text]
  | cons c cs ih =>
      rw [List.flatMap_cons, List.append_assoc]
      by_cases space : c = ' '
      · obtain rfl := space
        have itself : doubleChar ' ' = [' '] := by decide
        rw [itself, List.singleton_append, readDouble.eq_def]
        simpa [isWhite, Gap.white] using ih (whites ++ [' '])
      · rw [readDouble_doubleChar _ space, Gap.empty, ih []]
        rfl

/-! ## Single quotes -/

/-- A quote is doubled. -/
def doubled (c : Char) : List Char :=
  if c = '\'' then ['\'', '\''] else [c]

/-- The indentation before the first character of a line. -/
def lead (startsLine : Bool) : List Char :=
  if startsLine then indentation else []

/-- What is written of a text in single quotes before the closing one. The text starts a line or
    not. -/
def inner (startsLine : Bool) : List Char → List Char
  | [] => lead startsLine
  | c :: cs =>
    if isBreak c then c :: inner true cs else lead startsLine ++ doubled c ++ inner false cs

theorem indentLines_doubled (startsLine : Bool) (cs : List Char) :
    indentLines startsLine (cs.flatMap doubled) ++
      lead ((cs.getLast?.map isBreak).getD startsLine) = inner startsLine cs := by
  induction cs generalizing startsLine with
  | nil => rfl
  | cons c cs ih =>
      have last : ((c :: cs).getLast?.map isBreak).getD startsLine =
          (cs.getLast?.map isBreak).getD (isBreak c) := by
        cases found : cs.getLast? <;> simp [List.getLast?_cons, found]
      rw [inner, List.flatMap_cons, last]
      cases content : isBreak c with
      | true =>
          have quote : c ≠ '\'' := ne_of_class content rfl
          simp [doubled, quote, indentLines, content, ← ih]
      | false =>
          by_cases quote : c = '\''
          · obtain rfl := quote
            simp [doubled, indentLines, content, lead, ← ih]
          · simp [doubled, quote, indentLines, content, lead, ← ih]

theorem single_eq (cs : List Char) : single cs = '\'' :: inner false cs ++ ['\''] := by
  have last : lead ((cs.getLast?.map isBreak).getD false) =
      if cs.getLast?.any isBreak then indentation else [] := by
    cases cs.getLast? <;> rfl
  rw [← indentLines_doubled, last]
  rfl

/-- What may be pending before a text in single quotes: white space, or line breaks that stay what
    they are. -/
inductive Pending (cs : List Char) : Bool → Gap → Prop where
  | within {whites : List Char} (next : whites ≠ [] → cs.head?.all fun c => !isBreak c) :
      Pending cs false (.within whites)
  | across {breaks : List Char} (feeds : '\n' ∉ breaks) (next : cs.head? ≠ some ' ') :
      Pending cs true (.across breaks 0)

theorem text_across {breaks : List Char} (feeds : '\n' ∉ breaks) (column : Nat) :
    (Gap.across breaks column).text = breaks := by
  unfold Gap.text
  split <;> simp_all

theorem readSingle_white {c : Char} (white : isWhite c) (g : Gap) (rest : List Char) :
    readSingle g (c :: rest) = readSingle (g.white c) rest := by
  rw [readSingle.eq_def]
  exact if_pos white

theorem readSingle_break {c : Char} (white : isWhite c = false) (ends : isBreak c) (g : Gap)
    (rest : List Char) : readSingle g (c :: rest) = readSingle (g.newline c) rest := by
  rw [readSingle.eq_def]
  simp [white, ends]

/-- The indentation of a line is passed over, and no document mark is found behind it. -/
theorem readSingle_lead {cs : List Char} {startsLine : Bool} {g : Gap}
    (h : Pending cs startsLine g) :
    ∃ g' : Gap, g'.text = g.text ∧ (∀ tail, isCut g' tail = false) ∧
      ∀ tail, readSingle g (lead startsLine ++ tail) = readSingle g' tail := by
  cases h with
  | @within whites _ =>
      exact ⟨.within whites, rfl, by simp [isCut, Gap.isBefore, Gap.column?], fun _ => rfl⟩
  | @across breaks feeds _ =>
      refine ⟨.across breaks 2, ?_, by simp [isCut, Gap.isBefore, Gap.column?], fun tail => ?_⟩
      · rw [text_across feeds, text_across feeds]
      · show readSingle (.across breaks 0) (' ' :: ' ' :: tail) = _
        rw [readSingle_white rfl, readSingle_white rfl]
        rfl

theorem newline_pending {c : Char} {cs : List Char} {startsLine : Bool} {g : Gap}
    (h : Pending (c :: cs) startsLine g) (ends : isBreak c) (feed : c ≠ '\n') :
    ∃ breaks, g.newline c = .across breaks 0 ∧ breaks = g.text ++ [c] ∧ '\n' ∉ breaks := by
  cases h with
  | @within whites next =>
      cases whites with
      | nil => exact ⟨[c], rfl, rfl, by simp [Ne.symm feed]⟩
      | cons w whites => simp [ends] at next
  | @across breaks feeds _ =>
      refine ⟨breaks ++ [c], rfl, ?_, ?_⟩
      · rw [text_across feeds]
      · simp [feeds, Ne.symm feed]

theorem hasPair_cons (p q : Char → Bool) (c : Char) (cs : List Char) :
    hasPair p q (c :: cs) = ((p c && cs.head?.any q) || hasPair p q cs) := by
  cases cs with
  | nil => simp [hasPair]
  | cons d cs => rfl

/-- A text on one line, but for line breaks that stay what they are and are next to no space. -/
structure Singly (cs : List Char) : Prop where
  printable : Printable cs
  feeds : '\n' ∉ cs
  after : hasPair isBreak isSpace cs = false
  before : hasPair isSpace isBreak cs = false

section Singly

variable {c : Char} {cs : List Char} (h : Singly (c :: cs))

include h

theorem Singly.tail : Singly cs where
  printable := (printable_cons.mp h.printable).2
  feeds := fun member => h.feeds (List.mem_cons_of_mem c member)
  after := by
    have pairs := h.after
    rw [hasPair_cons, Bool.or_eq_false_iff] at pairs
    exact pairs.2
  before := by
    have pairs := h.before
    rw [hasPair_cons, Bool.or_eq_false_iff] at pairs
    exact pairs.2

theorem Singly.feed : c ≠ '\n' := by
  rintro rfl
  exact h.feeds List.mem_cons_self

theorem Singly.head_ne_space (ends : isBreak c) : cs.head? ≠ some ' ' := by
  intro space
  have pairs := h.after
  simp [hasPair_cons, ends, space, isSpace] at pairs

theorem Singly.head_content (space : c = ' ') : cs.head?.all fun c => !isBreak c := by
  have pairs := h.before
  cases cs with
  | nil => rfl
  | cons d cs =>
      simp only [hasPair_cons, space, isSpace, List.head?_cons] at pairs
      simp_all

end Singly

theorem readSingle_close {g : Gap} (uncut : ∀ tail, isCut g tail = false) {rest : List Char}
    (closed : rest.head? ≠ some '\'') : readSingle g ('\'' :: rest) = .ok (g.text, rest) := by
  rw [readSingle.eq_def]
  cases rest with
  | nil => simp [uncut, isWhite, isBreak]
  | cons d rest =>
      have other : d ≠ '\'' := by simpa using closed
      simp [uncut, isWhite, isBreak, other]

theorem readSingle_doubled {g : Gap} (uncut : ∀ tail, isCut g tail = false) {c : Char}
    (white : isWhite c = false) (content : isBreak c = false) {tail text rest : List Char}
    (read : readSingle .empty tail = .ok (text, rest)) :
    readSingle g (doubled c ++ tail) = .ok (g.text ++ c :: text, rest) := by
  by_cases quote : c = '\''
  · obtain rfl := quote
    rw [readSingle.eq_def]
    simp [doubled, uncut, isWhite, isBreak, read]
  · rw [readSingle.eq_def]
    simp [doubled, quote, uncut, white, content, read]

/-- A text in single quotes is read back, with what is pending before it. -/
theorem readSingle_inner {cs rest : List Char} (fits : Singly cs) (closed : rest.head? ≠ some '\'')
    {startsLine : Bool} {g : Gap} (pending : Pending cs startsLine g) :
    readSingle g (inner startsLine cs ++ '\'' :: rest) = .ok (g.text ++ cs, rest) := by
  -- What is pending grows over spaces and line breaks until a character hands it over, so the
  -- induction is for every gap.
  induction cs generalizing startsLine g with
  | nil =>
      obtain ⟨g', text, uncut, passed⟩ := readSingle_lead pending
      rw [inner, passed, readSingle_close uncut closed, text, List.append_nil]
  | cons c cs ih =>
      have printable : isPrintable c := fits.printable c List.mem_cons_self
      rw [inner]
      cases content : isBreak c with
      | true =>
          obtain ⟨breaks, newline, text, feeds⟩ := newline_pending pending content fits.feed
          have later := ih fits.tail (.across feeds (fits.head_ne_space content))
          have white : isWhite c = false := by
            rw [isWhite_of_isPrintable printable, beq_eq_false_iff_ne]
            exact ne_of_class content rfl
          rw [if_pos rfl, List.cons_append, readSingle_break white content, newline, later,
            text_across feeds, text, List.append_assoc, List.singleton_append]
      | false =>
          have later := ih fits.tail (g := .empty) (.within fun nonempty => absurd rfl nonempty)
          by_cases space : c = ' '
          · obtain rfl := space
            cases pending with
            | @within whites next =>
                have later := ih fits.tail (.within fun _ => fits.head_content rfl)
                  (g := .within (whites ++ [' ']))
                rw [if_neg (by simp)]
                show readSingle (.within whites) (' ' :: (inner false cs ++ '\'' :: rest)) = _
                rw [readSingle_white rfl, Gap.white, later, Gap.text, Gap.text, List.append_assoc,
                  List.singleton_append]
            | across _ next => exact absurd rfl next
          · have white : isWhite c = false := by
              simpa [isWhite_of_isPrintable printable] using space
            obtain ⟨g', text, uncut, passed⟩ := readSingle_lead pending
            rw [if_neg (by simp), List.append_assoc, List.append_assoc, passed,
              readSingle_doubled uncut white content later, text]
            rfl

/-- A text in single quotes is read back, if it has no line feed. -/
theorem readSingle_written {cs rest : List Char} (fits : fitsSingle cs) (feeds : '\n' ∉ cs)
    (closed : rest.head? ≠ some '\'') :
    readSingle .empty (inner false cs ++ '\'' :: rest) = .ok (cs, rest) := by
  simp only [fitsSingle, Bool.and_eq_true, List.all_eq_true, Bool.not_eq_true'] at fits
  obtain ⟨⟨printable, after⟩, before⟩ := fits
  have nothing : Pending cs false .empty := .within fun nonempty => absurd rfl nonempty
  exact readSingle_inner ⟨printable, feeds, after, before⟩ closed nothing

end RemoteDesk.Yaml.Quoted
