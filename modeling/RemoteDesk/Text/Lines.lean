import RemoteDesk.Text.Blank

/-! # Lines

A text is cut after each line feed, so that joining its lines gives it back. Only the line feed ends
a line: a carriage return is a character of its line.
-/

namespace RemoteDesk.Text

/-- The lines of a text, each with the line feed that ends it; only the last line may lack one. -/
def lines : List Char → List (List Char)
  | [] => []
  | c :: rest =>
    if c = '\n' then [c] :: lines rest
    else
      match lines rest with
      | [] => [[c]]
      | line :: others => (c :: line) :: others

/-- No character is lost between lines. -/
theorem flatten_lines (cs : List Char) : (lines cs).flatten = cs := by
  induction cs with
  | nil => rfl
  | cons c rest ih =>
    unfold lines
    split
    · simp [ih]
    · split
      · next h => simp [h] at ih; simp [← ih]
      · next h => simp [h] at ih; simp [← ih]

/-- A text that ends with its last line leaves the lines after it alone. -/
def Ended (cs : List Char) : Prop :=
  cs = [] ∨ cs.getLast? = some '\n'

theorem lines_append {a : List Char} (h : Ended a) (b : List Char) :
    lines (a ++ b) = lines a ++ lines b := by
  induction a with
  | nil => rfl
  | cons c rest ih =>
    by_cases feed : c = '\n'
    · have ended : Ended rest := by
        rcases List.eq_nil_or_concat rest with rfl | ⟨init, last, rfl⟩
        · exact .inl rfl
        · exact .inr (by simpa [Ended, List.getLast?_cons] using h)
      simp [lines, feed, ih ended]
    · -- The first line goes on, so the rest is not empty and has a first line of its own.
      have ended : rest ≠ [] ∧ Ended rest := by
        rcases List.eq_nil_or_concat rest with rfl | ⟨init, last, rfl⟩
        · simp [Ended, feed] at h
        · exact ⟨by simp, .inr (by simpa [Ended, List.getLast?_cons] using h)⟩
      have nonempty : lines rest ≠ [] := by
        intro unlined
        have := flatten_lines rest
        rw [unlined] at this
        exact ended.1 this.symm
      obtain ⟨line, others, first⟩ := List.exists_cons_of_ne_nil nonempty
      simp [lines, feed, ih ended.2, first]

/-- A line of its own, when the text before it has ended. -/
theorem lines_of_line {line : List Char} (h : '\n' ∉ line) :
    lines (line ++ ['\n']) = [line ++ ['\n']] := by
  induction line with
  | nil => rfl
  | cons c rest ih =>
    obtain ⟨different, later⟩ : c ≠ '\n' ∧ '\n' ∉ rest := by
      simpa [eq_comm] using h
    simp [lines, different, ih later]

/-- Writes each line followed by a line feed. -/
def unlines (ls : List String) : String :=
  String.join (ls.map (· ++ "\n"))

/-- One line with `margin` before it, unless the line shows nothing. -/
def indentLine (margin line : List Char) : List Char :=
  if line.all isBlankChar then line else margin ++ line

/-- Puts `margin` before every line that shows something and leaves blank lines as they are. -/
def indent (text margin : String) : String :=
  String.ofList ((lines text.toList).flatMap (indentLine margin.toList))

end RemoteDesk.Text
