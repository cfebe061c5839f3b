import RemoteDesk.Proofs.Script.Typing
import RemoteDesk.Proofs.Text.Lines

/-! # Line breaks in the opening of a script

Escaping changes special characters and quotes and lets every other character through, line feeds
among them. So the opening of an escaped script has one line more for every line feed in its
credentials. Where there is none, each of the three statements is one line, and these lines are all
in which the opening differs from the one without credentials.
-/

namespace RemoteDesk.Script

/-! ## Escaping -/

theorem count_escapeChar {b : Char} (plain : isSendSpecial b = false) (unquoted : b ≠ '"')
    (c : Char) : (escapeChar c).count b = [c].count b := by
  unfold escapeChar
  by_cases special : isSendSpecial c
  · have braces : b ≠ '\x7b' ∧ b ≠ '\x7d' := by
      constructor <;> rintro rfl <;> exact absurd plain (by decide)
    rw [if_pos special, List.count_cons_of_ne braces.1.symm, List.count_cons,
      List.count_cons_of_ne braces.2.symm, List.count_singleton]
    simp
  · rw [if_neg special]
    by_cases quote : c = '"'
    · subst quote
      rw [if_pos rfl, List.count_cons_of_ne unquoted.symm]
    · rw [if_neg quote]

/-- What is neither special nor a quote comes through as it is. -/
theorem count_escape {b : Char} (plain : isSendSpecial b = false) (unquoted : b ≠ '"')
    (value : String) : (escape value).toList.count b = value.toList.count b := by
  rw [escape, String.toList_ofList]
  induction value.toList with
  | nil => rfl
  | cons c rest ih =>
      rw [List.flatMap_cons, List.count_append, ih, count_escapeChar plain unquoted,
        ← List.count_append, List.singleton_append]

def amount (b : Char) (c : Credentials) : Nat :=
  c.computer.toList.count b + c.username.toList.count b + c.password.toList.count b

/-! ## The opening -/

theorem count_typeEntry {b : Char} (plain : isSendSpecial b = false) (unquoted : b ≠ '"')
    (value : String) (key : Key) :
    (typeEntry (escape value) key.name).toList.count b =
      (typeEntry (escape "") key.name).toList.count b + value.toList.count b := by
  simp only [typeEntry, sendStatement, String.toList_append, List.count_append,
    count_escape plain unquoted]
  simp only [String.toList_empty, List.count_nil]
  omega

theorem count_entries {b : Char} (plain : isSendSpecial b = false) (unquoted : b ≠ '"')
    (c : Credentials) :
    (entries c).toList.count b = (entries .none).toList.count b + amount b c := by
  simp only [entries, String.toList_append, List.count_append, Credentials.none, amount]
  rw [count_typeEntry plain unquoted c.computer, count_typeEntry plain unquoted c.username,
    count_typeEntry plain unquoted c.password]
  omega

def opening (index : UInt32) (c : Credentials) : List Char :=
  (openSequence index (escape c.computer) (escape c.username) (escape c.password)).toList

theorem opening_eq (index : UInt32) (c : Credentials) :
    opening index c = (openHead index).toList ++ ((entries c).toList ++ openEpilogue.toList) := by
  rw [opening, openSequence_escaped, String.toList_append, String.toList_append, List.append_assoc]

theorem ended_openHead (index : UInt32) : Text.Ended (openHead index).toList := by
  rw [openHead, String.toList_append]
  refine .append ?_ (Text.ended_unlines _)
  refine .inr ?_
  rw [String.toList_append, List.getLast?_append]
  rfl

theorem ended_typeEntry (value key : String) : Text.Ended (typeEntry value key).toList := by
  refine .inr ?_
  rw [typeEntry, String.toList_append, List.getLast?_append]
  rfl

theorem ended_entries (c : Credentials) : Text.Ended (entries c).toList := by
  rw [entries, String.toList_append, String.toList_append]
  exact ((ended_typeEntry _ _).append (ended_typeEntry _ _)).append (ended_typeEntry _ _)

theorem lines_opening (index : UInt32) (c : Credentials) :
    Text.lines (opening index c) =
      Text.lines (openHead index).toList ++
        (Text.lines (entries c).toList ++ Text.lines openEpilogue.toList) := by
  rw [opening_eq, Text.lines_append (ended_openHead index), Text.lines_append (ended_entries c)]

theorem count_opening {b : Char} (plain : isSendSpecial b = false) (unquoted : b ≠ '"')
    (index : UInt32) (c : Credentials) :
    (opening index c).count b = (opening index .none).count b + amount b c := by
  simp only [opening_eq, List.count_append, count_entries plain unquoted c]
  omega

theorem length_lines_opening (index : UInt32) (c : Credentials) :
    (Text.lines (opening index c)).length =
      (Text.lines (opening index .none)).length + amount '\n' c := by
  have ended (c : Credentials) : Text.Ended (opening index c) := by
    rw [opening_eq]
    exact (ended_openHead index).append ((ended_entries c).append (Text.ended_unlines _))
  rw [Text.length_lines_of_ended (ended c), Text.length_lines_of_ended (ended .none),
    count_opening (by decide) (by decide)]

/-- The lines of a statement that types a credential. -/
def entryLines (value : String) (key : Key) : List (List Char) :=
  [(sendStatement (escape value) key.name).toList, entryDelay.toList]

theorem lines_typeEntry {value : String} (unbroken : '\n' ∉ value.toList) (key : Key) :
    Text.lines (typeEntry (escape value) key.name).toList = entryLines value key := by
  have close : "\")\n".toList = ['"', ')'] ++ ['\n'] := by decide
  have whole : '\n' ∉ (escape value).toList := by
    rw [← List.count_eq_zero, count_escape (by decide) (by decide), List.count_eq_zero]
    exact unbroken
  have name : '\n' ∉ key.name.toList := by
    cases key <;> decide
  have send : Text.lines (sendStatement (escape value) key.name).toList =
      [(sendStatement (escape value) key.name).toList] := by
    simp only [sendStatement, String.toList_append, close, ← List.append_assoc]
    refine Text.lines_of_line ?_
    simp [whole, name]
  have ended : Text.Ended (sendStatement (escape value) key.name).toList := by
    refine .inr ?_
    rw [sendStatement, String.toList_append, List.getLast?_append]
    rfl
  have delay : Text.lines entryDelay.toList = [entryDelay.toList] := by decide
  rw [typeEntry, String.toList_append, Text.lines_append ended, send, delay]
  rfl

theorem lines_entries {c : Credentials} (computer : '\n' ∉ c.computer.toList)
    (username : '\n' ∉ c.username.toList) (password : '\n' ∉ c.password.toList) :
    Text.lines (entries c).toList =
      entryLines c.computer .tab ++ entryLines c.username .enter ++
        entryLines c.password .enter := by
  rw [entries, String.toList_append, String.toList_append,
    Text.lines_append ((ended_typeEntry _ _).append (ended_typeEntry _ _)),
    Text.lines_append (ended_typeEntry _ _), lines_typeEntry computer, lines_typeEntry username,
    lines_typeEntry password]

/-- Every line feed of a credential adds a line to the opening of an escaped script, and every
    carriage return comes through as well. So the opening has as many lines as without credentials
    exactly if no credential has a line feed, and then the two openings differ in three lines, each
    of which is one whole statement and differs inside its literal only. -/
theorem opening_keeps_lines_iff (index : UInt32) (c : Credentials) (subtasks : Catalog) :
    (assemble index c subtasks true).text.toList =
        (declaration index).toList ++ opening index c ++
          (callSection subtasks ++ closeSequence ++ bodies subtasks).toList ∧
    (Text.lines (opening index c)).length =
      (Text.lines (opening index .none)).length + amount '\n' c ∧
    (opening index c).count '\r' = (opening index .none).count '\r' + amount '\r' c ∧
    ((Text.lines (opening index c)).length = (Text.lines (opening index .none)).length ↔
      '\n' ∉ c.computer.toList ∧ '\n' ∉ c.username.toList ∧ '\n' ∉ c.password.toList) ∧
    ('\n' ∉ c.computer.toList → '\n' ∉ c.username.toList → '\n' ∉ c.password.toList →
      ∃ before after : List (List Char),
        Text.lines (opening index .none) = before ++ (entryLines "" .tab ++ entryLines "" .enter ++
          entryLines "" .enter) ++ after ∧
        Text.lines (opening index c) = before ++ (entryLines c.computer .tab ++
          entryLines c.username .enter ++ entryLines c.password .enter) ++ after) := by
  refine ⟨?_, length_lines_opening index c, count_opening (by decide) (by decide) index c, ?_, ?_⟩
  · simp only [assemble, Credentials.map, if_true, opening, String.toList_append, List.append_assoc]
  · rw [length_lines_opening, ← List.count_eq_zero, ← List.count_eq_zero, ← List.count_eq_zero,
      amount]
    omega
  · intro computer username password
    refine ⟨Text.lines (openHead index).toList, Text.lines openEpilogue.toList, ?_, ?_⟩
    · rw [lines_opening, @lines_entries .none (by decide) (by decide) (by decide)]
      simp only [Credentials.none, List.append_assoc]
    · rw [lines_opening, lines_entries computer username password]
      simp only [List.append_assoc]

/-- A line feed in a password ends the statement in the middle of its literal: the opening has one
    line more, and what follows the line feed stands on a line of its own. -/
theorem opening_broken_by_line_feed :
    let c : Credentials := ⟨"10.0.0.5", "alice", "s3c\nr3t"⟩
    (Text.lines (opening 1 c)).length = (Text.lines (opening 1 .none)).length + 1 ∧
      "    Send(\"s3c\n".toList ∈ Text.lines (opening 1 c) ∧
      "r3t\x7bENTER\x7d\")\n".toList ∈ Text.lines (opening 1 c) := by
  intro c
  have once : amount '\n' c = 1 := by decide
  refine ⟨by rw [length_lines_opening, once], ?_, ?_⟩ <;> rw [lines_opening] <;>
    exact List.mem_append_right _ (List.mem_append_left _ (by decide +kernel))

end RemoteDesk.Script
