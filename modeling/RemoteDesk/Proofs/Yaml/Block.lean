import RemoteDesk.Proofs.Yaml.Characters
import RemoteDesk.Yaml.Block
import RemoteDesk.Yaml.Writing

/-! # Literal blocks read back

A literal block holds the lines of a text, and each of them that is not empty is indented. Its
header says how far, if the text does not show it, and what becomes of the line breaks at its end.
So a text falls into a part that ends with content, which is read back line by line, and the line
breaks after it, which the header keeps.
-/

namespace RemoteDesk.Yaml.Block

open Writing

section Lines

variable {l : Layout}

/-! ## The breaks at the end -/

section Ending

variable (inside : 0 < l.indent) {more : List Char} (next : AtWord more)

include inside next

theorem readMargin_end (p : Pause) : readMargin l p 0 more = .ok (p.ending l.chomping, more) := by
  cases more with
  | nil => rw [readMargin]
  | cons c more =>
      have first : isWordChar c := next
      have space : c ≠ ' ' := ne_of_class first rfl
      have tab : c ≠ '\t' := ne_of_class first rfl
      rw [readMargin]
      simp [space, tab, (visible_of_isWordChar first).content, Nat.ne_of_lt inside]

theorem readMargin_breaks {breaks : List Char} (ends : ∀ c ∈ breaks, isBreak c) (p : Pause) :
    readMargin l p 0 (breaks ++ more) =
      .ok (({ p with more := p.more ++ breaks } : Pause).ending l.chomping, more) := by
  induction breaks generalizing p with
  | nil => simpa using readMargin_end inside next p
  | cons c breaks ih =>
      obtain ⟨first, others⟩ := List.forall_mem_cons.mp ends
      have space : c ≠ ' ' := ne_of_class first rfl
      have tab : c ≠ '\t' := ne_of_class first rfl
      have later := ih others { p with more := p.more ++ [c] }
      rw [List.cons_append, readMargin]
      simpa [space, tab, first] using later

theorem readContent_breaks {c : Char} {breaks : List Char} (ends : ∀ d ∈ c :: breaks, isBreak d)
    (startedWhite : Bool) :
    readContent l startedWhite (c :: breaks ++ more) =
      .ok (Pause.ending ⟨some c, breaks, startedWhite⟩ l.chomping, more) := by
  obtain ⟨first, others⟩ := List.forall_mem_cons.mp ends
  have later := readMargin_breaks inside next others ⟨some c, [], startedWhite⟩
  rw [List.cons_append, readContent]
  simpa [first] using later

end Ending

/-! ## The lines with content -/

theorem readMargin_indentation (two : l.indent = 2) (p : Pause) (rest : List Char) :
    readMargin l p 0 (indentation ++ rest) = readMargin l p 2 rest := by
  rw [indentation, List.cons_append, List.singleton_append, readMargin, if_pos (by simp [two]),
    readMargin, if_pos (by simp [two])]

section Content

variable (literal : l.folded = false) (two : l.indent = 2) {tail text rest : List Char}
  (ending : ∀ startedWhite, readContent l startedWhite tail = .ok (text, rest))

include literal two ending

/-- Lines up to content are read back, from the start of a line with a pause before it and from
    within a line. -/
theorem read_lines (cs : List Char) :
    (cs.getLast?.any (fun c => !isBreak c) → ∀ p : Pause,
      readMargin l p 0 (indentLines true cs ++ tail) = .ok (p.breaks ++ cs ++ text, rest)) ∧
    (cs.getLast?.all (fun c => !isBreak c) → ∀ startedWhite,
      readContent l startedWhite (indentLines false cs ++ tail) = .ok (cs ++ text, rest)) := by
  induction cs with
  | nil => exact ⟨fun h => absurd h (by simp), fun _ => ending⟩
  | cons c cs ih =>
      cases content : isBreak c with
      | true =>
          -- Content is still to come, whether or not it has begun.
          have later (h : (c :: cs).getLast?.all fun c => !isBreak c) :
              cs.getLast?.any fun c => !isBreak c := by
            cases found : cs.getLast? <;> simp_all [List.getLast?_cons]
          refine ⟨fun h p => ?_, fun h startedWhite => ?_⟩
          · have read := ih.1 (later (by simpa [List.getLast?_cons] using h))
              { p with more := p.more ++ [c] }
            have space : c ≠ ' ' := ne_of_class content rfl
            have tab : c ≠ '\t' := ne_of_class content rfl
            rw [indentLines, if_pos content, List.cons_append, readMargin]
            simpa [space, tab, content, Pause.breaks] using read
          · have read := ih.1 (later h) ⟨some c, [], startedWhite⟩
            rw [indentLines, if_pos content, List.cons_append, readContent, if_pos content, read]
            rfl
      | false =>
          have later (h : (c :: cs).getLast?.any fun c => !isBreak c) :
              cs.getLast?.all fun c => !isBreak c := by
            cases found : cs.getLast? <;> simp_all [List.getLast?_cons]
          refine ⟨fun h p => ?_, fun h startedWhite => ?_⟩
          · have read := ih.2 (later h) (isWhite c)
            rw [indentLines, if_neg (by simp [content]), if_pos rfl, List.append_assoc,
              List.cons_append, readMargin_indentation two, readMargin]
            simp [two, content, read, Pause.text, literal]
          · have read := ih.2 (later (by simpa [List.getLast?_cons] using h)) startedWhite
            rw [indentLines, if_neg (by simp [content])]
            simp [readContent, content, read]

end Content

end Lines

/-! ## Headers -/

/-- The sign of a way to chomp in a header. -/
def Chomping.sign : Chomping → List Char
  | .strip => ['-']
  | .clip => []
  | .keep => ['+']

/-- The text does not show how far it is indented, so the header says it. -/
def needsHint (cs : List Char) : Bool :=
  cs.head?.any fun c => c == ' ' || isBreak c

theorem readHeader_signs (hinted : Bool) (chomping : Chomping) (rest : List Char) :
    readHeader ((if hinted then ['2'] else []) ++ chomping.sign ++ '\n' :: rest) =
      .ok (⟨chomping, if hinted then some 2 else none⟩, rest) := by
  cases hinted <;> cases chomping <;> rfl

/-- The line breaks at the end of a text stand behind its lines with content. -/
theorem exists_breaks (cs : List Char) :
    ∃ front breaks, cs = front ++ breaks ∧ (front.getLast?.all fun c => !isBreak c) ∧
      ∀ c ∈ breaks, isBreak c := by
  induction cs with
  | nil => exact ⟨[], [], rfl, rfl, fun _ h => absurd h List.not_mem_nil⟩
  | cons c cs ih =>
      obtain ⟨front, breaks, rfl, content, ends⟩ := ih
      cases front with
      | cons d front => exact ⟨c :: d :: front, breaks, rfl, content, ends⟩
      | nil =>
          cases first : isBreak c with
          | true => exact ⟨[], c :: breaks, rfl, rfl, List.forall_mem_cons.mpr ⟨first, ends⟩⟩
          | false => exact ⟨[c], breaks, rfl, by simp [first], ends⟩

/-- How the breaks behind the lines with content are chomped so that the text stays as it is. -/
def fitting : List Char → List Char → Chomping
  | _, [] => .strip
  | [], _ => .keep
  | _, [_] => .clip
  | _, _ => .keep

/-- The line feed that ends the last line, if no break at the end of the text does. -/
def closing (breaks : List Char) : List Char :=
  if breaks = [] then ['\n'] else []

theorem indentLines_breaks {breaks : List Char} (ends : ∀ c ∈ breaks, isBreak c)
    (startsLine : Bool) (front : List Char) :
    indentLines startsLine (front ++ breaks) = indentLines startsLine front ++ breaks := by
  induction front generalizing startsLine with
  | nil =>
      induction breaks generalizing startsLine with
      | nil => rfl
      | cons c breaks ih =>
          obtain ⟨first, others⟩ := List.forall_mem_cons.mp ends
          simpa [indentLines, first] using ih others true
  | cons c front ih =>
      cases content : isBreak c <;> simp [indentLines, content, ih]

theorem literalHints_concat (cs : List Char) (last : Char) :
    literalHints (cs ++ [last]) =
      (if needsHint (cs ++ [last]) then ['2'] else []) ++
        if !isBreak last then ['-'] else if cs.getLast?.all isBreak then ['+'] else [] := by
  simp [literalHints, needsHint]

section Parts

variable {front breaks : List Char} (content : front.getLast?.all fun c => !isBreak c)
  (ends : ∀ c ∈ breaks, isBreak c)

include content ends

theorem getLast?_isBreak : (front ++ breaks).getLast?.any isBreak = !breaks.isEmpty := by
  cases breaks with
  | nil => cases found : front.getLast? <;> simp_all
  | cons c breaks =>
      have last : isBreak (breaks.getLast?.getD c) := by
        refine ends _ (List.mem_of_getLast? ?_)
        rw [List.getLast?_cons]
      simp [List.getLast?_append, List.getLast?_cons, last]

variable (nonempty : front ++ breaks ≠ [])

include nonempty

theorem literalHints_eq :
    literalHints (front ++ breaks) =
      (if needsHint (front ++ breaks) then ['2'] else []) ++ (fitting front breaks).sign := by
  rcases List.eq_nil_or_concat breaks with rfl | ⟨early, last, rfl⟩
  · rcases List.eq_nil_or_concat front with rfl | ⟨init, last, rfl⟩
    · exact absurd rfl nonempty
    · rw [List.concat_eq_append] at content ⊢
      have visible : isBreak last = false := by simpa using content
      rw [List.append_nil, literalHints_concat, visible]
      cases init <;> rfl
  · rw [List.concat_eq_append] at ends ⊢
    have final : isBreak last := ends last (by simp)
    have before := getLast?_isBreak content fun c h => ends c (List.mem_append_left _ h)
    rw [← List.append_assoc, literalHints_concat, final]
    cases early with
    | nil =>
        cases front with
        | nil => rfl
        | cons c front => simp_all [List.getLast?_cons, fitting, Chomping.sign]
    | cons c early =>
        have keep : fitting front (c :: early ++ [last]) = .keep := by
          cases front <;> cases early <;> rfl
        have chomped : (front ++ c :: early).getLast?.all isBreak := by
          cases found : (front ++ c :: early).getLast? <;> simp_all
        rw [keep, chomped]
        rfl

/-- The lines of a text are read back if the breaks at its end are chomped so that they stay. -/
theorem readMargin_body {more : List Char} (next : AtWord more) :
    readMargin ⟨false, fitting front breaks, 2⟩ .start 0
        (indentLines true (front ++ breaks) ++ (closing breaks ++ more)) =
      .ok (front ++ breaks, more) := by
  have inside (chomping : Chomping) : 0 < (⟨false, chomping, 2⟩ : Layout).indent := Nat.two_pos
  rw [indentLines_breaks ends, List.append_assoc]
  cases front with
  | nil =>
      obtain ⟨c, breaks, rfl⟩ := List.exists_cons_of_ne_nil nonempty
      exact readMargin_breaks (inside .keep) next ends .start
  | cons c front =>
      have visible : (c :: front).getLast?.any fun c => !isBreak c := by
        simpa [List.getLast?_cons] using content
      have lines {chomping : Chomping} {tail : List Char} (ending : ∀ startedWhite,
          readContent ⟨false, chomping, 2⟩ startedWhite tail = .ok (breaks, more)) :=
        (read_lines rfl rfl ending (c :: front)).1 visible .start
      cases breaks with
      | nil =>
          have feed : ∀ d ∈ ['\n'], isBreak d := List.forall_mem_singleton.mpr rfl
          exact lines (readContent_breaks (inside .strip) next feed)
      | cons d breaks =>
          cases breaks with
          | nil => exact lines (readContent_breaks (inside .clip) next ends)
          | cons e breaks => exact lines (readContent_breaks (inside .keep) next ends)

end Parts

/-! ## Whole blocks -/

theorem getLast?_indentLines (startsLine : Bool) (cs : List Char) :
    (indentLines startsLine cs).getLast? = cs.getLast? := by
  induction cs generalizing startsLine with
  | nil => rfl
  | cons c cs ih =>
      cases content : isBreak c <;>
        simp [indentLines, content, List.getLast?_append, List.getLast?_cons, ih]

/-- What is written ends with a line break. -/
theorem literal_ends (cs : List Char) : (literal cs).getLast?.any isBreak := by
  have feed : isBreak '\n' := rfl
  cases found : cs.getLast? with
  | none => simp [literal, found, List.getLast?_cons, feed]
  | some c =>
      cases last : isBreak c <;>
        simp [literal, found, last, List.getLast?_cons, getLast?_indentLines, feed]

/-- A text that starts with a word shows how far it is indented. -/
theorem widest_lines {cs : List Char} (nonempty : cs ≠ []) (printable : Printable cs)
    (shown : needsHint cs = false) (tail : List Char) :
    widest 0 0 (indentLines true cs ++ tail) = .ok 2 := by
  obtain ⟨c, rest, rfl⟩ := List.exists_cons_of_ne_nil nonempty
  have word : c ≠ ' ' ∧ isBreak c = false := by simpa [needsHint] using shown
  have tab : c ≠ '\t' := ne_of_class (printable_cons.mp printable).1 rfl
  simp [indentLines, indentation, widest, word, tab]

/-- A text that is not empty is read back from a literal block at the left edge. -/
theorem read_literal {cs : List Char} (nonempty : cs ≠ []) (printable : Printable cs)
    {more : List Char} (next : AtWord more) :
    read false 0 1 (literalHints cs ++ '\n' :: indentLines true cs ++
      (if cs.getLast?.any isBreak then [] else ['\n']) ++ more) = .ok (cs, more) := by
  obtain ⟨front, breaks, rfl, content, ends⟩ := exists_breaks cs
  have body := readMargin_body content ends nonempty next
  have close : (if (front ++ breaks).getLast?.any isBreak then [] else ['\n']) =
      closing breaks := by
    rw [getLast?_isBreak content ends]
    cases breaks <;> rfl
  rw [literalHints_eq content ends nonempty, close, List.append_assoc, List.append_assoc,
    List.cons_append, read, readHeader_signs]
  cases hinted : needsHint (front ++ breaks) with
  | true => exact body
  | false =>
      have found := widest_lines nonempty printable hinted (closing breaks ++ more)
      simp only [found]
      exact body

end RemoteDesk.Yaml.Block
