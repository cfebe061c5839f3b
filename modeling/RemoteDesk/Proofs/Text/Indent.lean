import Mathlib.Data.List.Basic
import RemoteDesk.Proofs.Script.Sections

/-! # Indenting line by line

Between its line feeds, an indented text has the lines of the text: those that show something with
the margin before them, and the others as they are. So no line comes or goes, every line ends as it
did, and whoever knows the margin can take it out again. Texts that end with a line are indented
apart from what follows them, and calls of subtasks are such texts.
-/

namespace RemoteDesk.Text

/-! ## One line -/

theorem indentLine_of_blank {margin line : List Char} (h : ∀ c ∈ line, isBlankChar c) :
    indentLine margin line = line :=
  if_pos (List.all_eq_true.mpr h)

/-- The line feed that ends a line is blank, so it does not decide whether the line is indented. -/
theorem indentLine_feed (margin line : List Char) :
    indentLine margin (line ++ ['\n']) = indentLine margin line ++ ['\n'] := by
  have same : (line ++ ['\n']).all isBlankChar = line.all isBlankChar := by
    rw [List.all_append, show ['\n'].all isBlankChar = true by decide, Bool.and_true]
  simp only [indentLine, same]
  split
  · rfl
  · exact (List.append_assoc _ _ _).symm

theorem getLast?_indentLine (margin line : List Char) :
    (indentLine margin line).getLast? = line.getLast? := by
  unfold indentLine
  split
  · rfl
  · next visible =>
      have nonempty : line ≠ [] := by
        rintro rfl
        exact visible rfl
      rw [List.getLast?_append_of_ne_nil _ nonempty]

theorem plain_indentLine {margin line : List Char} (plain : '\n' ∉ margin) (h : '\n' ∉ line) :
    '\n' ∉ indentLine margin line := by
  unfold indentLine
  split
  · exact h
  · simp [plain, h]

/-! ## Lines between line feeds -/

theorem splitOn_line {line : List Char} (plain : '\n' ∉ line) (rest : List Char) :
    (line ++ ['\n'] ++ rest).splitOn '\n' = line :: rest.splitOn '\n' := by
  have cut := List.splitOnP_append_cons (p := (· == '\n')) line rest (beq_self_eq_true '\n')
  rw [← List.splitOn_eq_splitOnP, ← List.splitOn_eq_splitOnP, ← List.splitOn_eq_splitOnP,
    List.splitOn_eq_singleton plain, List.singleton_append] at cut
  rw [List.append_assoc, List.singleton_append, cut]

theorem Cut.splitOn_indented {ls : List (List Char)} (h : Cut ls) {margin : List Char}
    (plain : '\n' ∉ margin) :
    (ls.map (indentLine margin)).flatten.splitOn '\n' =
      (ls.flatten.splitOn '\n').map (indentLine margin) := by
  induction h with
  | nil => rfl
  | @unended line _ open_ =>
      rw [List.map_singleton, List.flatten_singleton, List.flatten_singleton,
        List.splitOn_eq_singleton open_, List.map_singleton,
        List.splitOn_eq_singleton (plain_indentLine plain open_)]
  | @ended line rest open_ _ ih =>
      rw [List.map_cons, List.flatten_cons, List.flatten_cons, indentLine_feed,
        splitOn_line (plain_indentLine plain open_), splitOn_line open_, ih, List.map_cons]

theorem toList_indent (text margin : String) :
    (indent text margin).toList = ((lines text.toList).map (indentLine margin.toList)).flatten := by
  rw [indent, String.toList_ofList, List.flatMap_def]

theorem splitOn_indent (text : String) {margin : String} (plain : '\n' ∉ margin.toList) :
    (indent text margin).toList.splitOn '\n' =
      (text.toList.splitOn '\n').map (indentLine margin.toList) := by
  rw [toList_indent, (cut_lines text.toList).splitOn_indented plain, flatten_lines]

/-- A text ends as it did, so there is a line feed at its end if and only if there was one. -/
theorem getLast?_indent (text margin : String) :
    (indent text margin).toList.getLast? = text.toList.getLast? := by
  have general (ls : List (List Char)) :
      (ls.map (indentLine margin.toList)).flatten.getLast? = ls.flatten.getLast? := by
    induction ls with
    | nil => rfl
    | cons line rest ih =>
        rw [List.map_cons, List.flatten_cons, List.flatten_cons, List.getLast?_append,
          List.getLast?_append, ih, getLast?_indentLine]
  rw [toList_indent, general, flatten_lines]

/-! ## Taking the margin out -/

/-- One line without the `width` characters before it, unless the line shows nothing. -/
def outdentLine (width : Nat) (line : List Char) : List Char :=
  if line.all isBlankChar then line else line.drop width

/-- Takes a margin out again. -/
def outdent (text margin : String) : String :=
  String.ofList ((lines text.toList).flatMap (outdentLine margin.toList.length))

theorem outdentLine_indentLine (margin line : List Char) :
    outdentLine margin.length (indentLine margin line) = line := by
  by_cases blank : line.all isBlankChar
  · rw [indentLine, if_pos blank, outdentLine, if_pos blank]
  · have visible : ¬ (margin ++ line).all isBlankChar := by
      rw [List.all_append, Bool.and_eq_true]
      exact fun all => blank all.2
    rw [indentLine, if_neg blank, outdentLine, if_neg visible, List.drop_left]

theorem outdent_indent (text : String) {margin : String} (plain : '\n' ∉ margin.toList) :
    outdent (indent text margin) margin = text := by
  have same : (lines text.toList).flatMap
      (fun line => outdentLine margin.toList.length (indentLine margin.toList line)) =
        text.toList := by
    simp only [outdentLine_indentLine, List.flatMap_id', flatten_lines]
  rw [outdent, lines_indent text margin plain, List.flatMap_map, same, String.ofList_toList]

/-! ## Texts in a row -/

/-- What ends with a line is indented apart from what follows. -/
theorem indent_append {a : String} (ended : Ended a.toList) (b margin : String) :
    indent (a ++ b) margin = indent a margin ++ indent b margin := by
  rw [indent, String.toList_append, lines_append ended, List.flatMap_append, String.ofList_append,
    ← indent, ← indent]

theorem indent_callSites (subtasks : Catalog) (margin : String) :
    indent (Script.callSites subtasks) margin =
      String.join (subtasks.map fun s => indent (Script.callSite s.1) margin) := by
  induction subtasks with
  | nil => rfl
  | cons s rest ih =>
      rw [Script.callSites, List.map_cons, String.join_cons,
        indent_append (Script.ended_callSite s.1), ← Script.callSites, ih, List.map_cons,
        String.join_cons]

/-- Seen as lines between line feeds, an indented text has as many of them as the text. A line that
    shows something has the margin before it, any other is as it was, and each ends as it did; the
    text as a whole ends as it did, too. Without its margin it is the text again. Texts that end with
    a line are indented one by one, and so are the calls of a script. -/
theorem indent_line_by_line (text margin : String) (plain : '\n' ∉ margin.toList) :
    let before := text.toList.splitOn '\n'
    let after := (indent text margin).toList.splitOn '\n'
    after.length = before.length ∧
      (∀ (i : Nat) line, before[i]? = some line → (∃ c ∈ line, isBlankChar c = false) →
        after[i]? = some (margin.toList ++ line)) ∧
      (∀ (i : Nat) line, before[i]? = some line → (∀ c ∈ line, isBlankChar c) →
        after[i]? = some line) ∧
      (∀ i : Nat, after[i]?.bind List.getLast? = before[i]?.bind List.getLast?) ∧
      ((indent text margin).toList.getLast? = some '\n' ↔ text.toList.getLast? = some '\n') ∧
      outdent (indent text margin) margin = text ∧
      (∀ a b : String, (a = "" ∨ a.toList.getLast? = some '\n') →
        indent (a ++ b) margin = indent a margin ++ indent b margin) ∧
      ∀ subtasks, Script.callSection subtasks =
        String.join (subtasks.map fun s => indent (Script.callSite s.1) Script.callMargin) := by
  intro before after
  have lined : after = before.map (indentLine margin.toList) := splitOn_indent text plain
  refine ⟨by rw [lined, List.length_map], ?_, ?_, ?_, by rw [getLast?_indent],
    outdent_indent text plain, ?_, fun subtasks => indent_callSites subtasks _⟩
  · rintro i line found ⟨c, member, shows⟩
    rw [lined, List.getElem?_map, found, Option.map_some, indentLine_of_visible member shows]
  · intro i line found blank
    rw [lined, List.getElem?_map, found, Option.map_some, indentLine_of_blank blank]
  · intro i
    rw [lined, List.getElem?_map]
    cases before[i]? with
    | none => rfl
    | some line => exact getLast?_indentLine margin.toList line
  · rintro a b (rfl | feed)
    · exact indent_append (.inl rfl) b margin
    · exact indent_append (.inr feed) b margin

/-- Lines that end with a carriage return, show nothing, are empty, or are not ended. -/
theorem indent_line_by_line_of_four :
    let text := "one\r\n \t\n\n  two"
    let margin := "> "
    '\n' ∉ margin.toList ∧ indent text margin = "> one\r\n \t\n\n>   two" ∧
      ((indent text margin).toList.splitOn '\n').length = (text.toList.splitOn '\n').length ∧
      ((indent text margin).toList.splitOn '\n')[1]? = some [' ', '\t'] ∧
      outdent (indent text margin) margin = text := by
  intro text margin
  have plain : '\n' ∉ margin.toList := by decide
  obtain ⟨count, -, blank, -, -, back, -⟩ := indent_line_by_line text margin plain
  have second : (text.toList.splitOn '\n')[1]? = some [' ', '\t'] := by decide +kernel
  have nothing : ∀ c ∈ [' ', '\t'], isBlankChar c := List.all_eq_true.mp rfl
  exact ⟨plain, by decide +kernel, count, blank 1 _ second nothing, back⟩

end RemoteDesk.Text
