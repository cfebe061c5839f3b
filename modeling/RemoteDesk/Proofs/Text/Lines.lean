import RemoteDesk.Text.Lines

/-! # Cutting a text into lines

A row of lines is cut properly if each line ends with the only line feed in it, where the last line
may lack it. Cutting the joined lines gives such a row back, and indenting keeps it such a row; so
indenting a text acts on its lines one by one.
-/

namespace RemoteDesk.Text

/-- Each line ends with the only line feed in it, where the last may lack it. -/
inductive Cut : List (List Char) → Prop where
  | nil : Cut []
  | unended {line : List Char} (nonempty : line ≠ []) (plain : '\n' ∉ line) : Cut [line]
  | ended {line : List Char} {rest : List (List Char)} (plain : '\n' ∉ line) (cut : Cut rest) :
      Cut ((line ++ ['\n']) :: rest)

theorem cut_lines (cs : List Char) : Cut (lines cs) := by
  induction cs with
  | nil => exact .nil
  | cons c rest ih =>
      by_cases feed : c = '\n'
      · simp only [lines, feed, if_true]
        exact @Cut.ended [] (lines rest) (by simp) ih
      · have plain {line : List Char} (h : '\n' ∉ line) : '\n' ∉ c :: line := by
          simpa [eq_comm, feed] using h
        simp only [lines, feed, if_false]
        cases same : lines rest with
        | nil => exact .unended (by simp) (plain (by simp))
        | cons line others =>
            rw [same] at ih
            cases ih with
            | unended _ open_ => exact .unended (by simp) (plain open_)
            | ended open_ cut => exact .ended (plain open_) cut

theorem lines_of_unended {line : List Char} (nonempty : line ≠ []) (plain : '\n' ∉ line) :
    lines line = [line] := by
  induction line with
  | nil => exact (nonempty rfl).elim
  | cons c rest ih =>
      obtain ⟨different, later⟩ : c ≠ '\n' ∧ '\n' ∉ rest := by
        simpa [eq_comm] using plain
      by_cases short : rest = []
      · simp [short, lines, different]
      · simp [lines, different, ih short later]

/-- Joining a properly cut row and cutting it again changes nothing. -/
theorem Cut.lines_flatten {ls : List (List Char)} (h : Cut ls) : lines ls.flatten = ls := by
  induction h with
  | nil => rfl
  | unended nonempty plain => simpa using lines_of_unended nonempty plain
  | ended plain _ ih =>
      have ended (line : List Char) : Ended (line ++ ['\n']) := .inr (by simp)
      rw [List.flatten_cons, lines_append (ended _), lines_of_line plain, ih, List.singleton_append]

theorem Cut.map_indentLine {ls : List (List Char)} (h : Cut ls) {margin : List Char}
    (plain : '\n' ∉ margin) : Cut (ls.map (indentLine margin)) := by
  have unbroken {line : List Char} (h : '\n' ∉ line) : '\n' ∉ margin ++ line := by
    simpa [plain] using h
  induction h with
  | nil => exact .nil
  | unended nonempty open_ =>
      simp only [List.map_cons, List.map_nil, indentLine]
      split
      · exact .unended nonempty open_
      · exact .unended (by simp [nonempty]) (unbroken open_)
  | ended open_ _ ih =>
      simp only [List.map_cons, indentLine]
      split
      · exact .ended open_ ih
      · rw [← List.append_assoc]
        exact .ended (unbroken open_) ih

theorem indentLine_of_visible {margin line : List Char} {c : Char} (member : c ∈ line)
    (visible : isBlankChar c = false) : indentLine margin line = margin ++ line := by
  rw [indentLine, if_neg]
  intro blank
  exact absurd (List.all_eq_true.mp blank c member) (by simp [visible])

/-- Indenting a text indents its lines one by one. -/
theorem lines_indent (text margin : String) (plain : '\n' ∉ margin.toList) :
    lines (indent text margin).toList = (lines text.toList).map (indentLine margin.toList) := by
  simp only [indent, String.toList_ofList, List.flatMap_def]
  exact ((cut_lines text.toList).map_indentLine plain).lines_flatten

theorem unlines_cons (line : String) (ls : List String) :
    unlines (line :: ls) = line ++ "\n" ++ unlines ls := by
  rw [unlines, List.map_cons, String.join_cons, ← unlines]

/-! ## Texts that end with a line -/

theorem Ended.append {text more : List Char} (h : Ended text) (h' : Ended more) :
    Ended (text ++ more) := by
  rcases h' with rfl | last
  · rwa [List.append_nil]
  · refine .inr ?_
    rw [List.getLast?_append, last]
    rfl

theorem ended_append_feed (text : String) : Ended (text ++ "\n").toList := by
  refine .inr ?_
  rw [String.toList_append, List.getLast?_append]
  rfl

theorem ended_unlines (ls : List String) : Ended (unlines ls).toList := by
  induction ls with
  | nil => exact .inl rfl
  | cons line rest ih =>
      rw [unlines_cons, String.toList_append]
      exact (ended_append_feed line).append ih

theorem Ended.tail {c : Char} {rest : List Char} (h : Ended (c :: rest)) : Ended rest := by
  rcases List.eq_nil_or_concat rest with rfl | ⟨init, last, rfl⟩
  · exact .inl rfl
  · exact .inr (by simpa [Ended, List.getLast?_cons] using h)

/-- A text that has ended has a line for each of its line feeds. -/
theorem length_lines_of_ended {text : List Char} (h : Ended text) :
    (lines text).length = text.count '\n' := by
  induction text with
  | nil => rfl
  | cons c rest ih =>
      have counted := ih h.tail
      by_cases feed : c = '\n'
      · simp [lines, feed, counted]
      · have nonempty : lines rest ≠ [] := by
          intro unlined
          have empty := flatten_lines rest
          rw [unlined] at empty
          subst empty
          simp [Ended, feed] at h
        obtain ⟨line, others, first⟩ := List.exists_cons_of_ne_nil nonempty
        rw [first] at counted
        rw [lines, if_neg feed, first, List.count_cons_of_ne feed, ← counted]
        rfl

end RemoteDesk.Text
