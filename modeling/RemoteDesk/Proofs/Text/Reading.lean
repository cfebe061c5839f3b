import RemoteDesk.Text.Lines

/-! # Reading a text from its start

A text that starts with a fixed part, or with a row of characters of a kind that the next one is not
of, falls into that start and the rest in one way only.
-/

namespace RemoteDesk.Text

theorem isPrefixOf?_append (start rest : List Char) :
    start.isPrefixOf? (start ++ rest) = some rest := by
  induction start with
  | nil => cases rest <;> rfl
  | cons c others ih =>
      change (if c == c then others.isPrefixOf? (others ++ rest) else none) = some rest
      rw [if_pos (beq_self_eq_true c), ih]

/-- A row of characters of one kind ends at the first character that is not of that kind. -/
theorem row_inj {kind : Char → Bool} {row other : List Char} {stop end_ : Char}
    {rest later : List Char} (hrow : ∀ c ∈ row, kind c) (hother : ∀ c ∈ other, kind c)
    (hstop : kind stop = false) (hend : kind end_ = false)
    (same : row ++ stop :: rest = other ++ end_ :: later) :
    row = other ∧ stop :: rest = end_ :: later := by
  have taken := congrArg (List.takeWhile kind) same
  rw [List.takeWhile_append_of_pos hrow, List.takeWhile_append_of_pos hother,
    List.takeWhile_cons_of_neg (by simp [hstop]), List.takeWhile_cons_of_neg (by simp [hend]),
    List.append_nil, List.append_nil] at taken
  subst taken
  exact ⟨rfl, List.append_cancel_left same⟩

/-- What breaks no line and starts a text starts its first line. -/
theorem lines_of_start {start : List Char} (nonempty : start ≠ []) (plain : '\n' ∉ start)
    (rest : List Char) :
    ∃ line others, lines (start ++ rest) = line :: others ∧ start <+: line := by
  induction start with
  | nil => exact (nonempty rfl).elim
  | cons c later ih =>
      obtain ⟨different, plain⟩ : c ≠ '\n' ∧ '\n' ∉ later := by
        simpa [eq_comm] using plain
      rw [List.cons_append, lines, if_neg different]
      by_cases short : later = []
      · subst short
        cases lines ([] ++ rest) with
        | nil => exact ⟨[c], [], rfl, List.prefix_rfl⟩
        | cons line others => exact ⟨c :: line, others, rfl, line, rfl⟩
      · obtain ⟨line, others, same, starts⟩ := ih short plain
        rw [same]
        exact ⟨c :: line, others, rfl, List.cons_prefix_cons.mpr ⟨rfl, starts⟩⟩

end RemoteDesk.Text
