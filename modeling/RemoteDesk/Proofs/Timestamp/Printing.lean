import RemoteDesk.Proofs.Timestamp.Calendar

/-! # Printed timestamps

What is read is a moment that the calendar has, with a leap second only at the end of a minute. Every
such moment is read back from its printed form, to the nanosecond.
-/

namespace RemoteDesk.Timestamp

/-- The moments that timestamps stand for. -/
structure Valid (t : Timestamp) : Prop where
  second : t.second < 86400
  nano : t.nano < 2000000000
  /-- A leap second comes after the last second of a minute. -/
  leap : 1000000000 ≤ t.nano → t.second % 60 = 59
  year : inCalendar (dateOfDay t.day).year

/-! ## Digits -/

theorem isDigit_iff (c : Char) : isDigit c ↔ 48 ≤ c.toNat ∧ c.toNat ≤ 57 := by
  simp only [isDigit, Bool.and_eq_true, decide_eq_true_eq, Char.le_def, UInt32.le_iff_toNat_le]
  rfl

theorem not_blank_of_isDigit {c : Char} (h : isDigit c) : Text.isBlankChar c = false := by
  obtain ⟨least, greatest⟩ := (isDigit_iff c).mp h
  simp only [Text.isBlankChar, Bool.or_eq_false_iff, Bool.and_eq_false_iff, decide_eq_false_iff_not,
    beq_eq_false_iff_ne]
  omega

theorem trimStart_cons {c : Char} (h : Text.isBlankChar c = false) (rest : List Char) :
    Text.trimStart (c :: rest) = c :: rest := by
  simp [Text.trimStart, h]

theorem valueOf_eq (digits : List Char) : valueOf digits = Nat.ofDigitChars 10 digits 0 := by
  have order : (fun (n : Nat) (c : Char) => n * 10 + (c.toNat - 48)) =
      fun n c => 10 * n + (c.toNat - '0'.toNat) := by
    funext n c
    rw [Nat.mul_comm]
    rfl
  rw [valueOf, order, Nat.ofDigitChars_eq_foldl]

section Padded

variable (width n : Nat)

theorem isDigit_padded {c : Char} (h : c ∈ padded width n) : isDigit c := by
  rcases List.mem_append.mp h with zero | digit
  · obtain rfl := List.eq_of_mem_replicate zero
    decide
  · have bounds := Nat.isDigit_of_mem_toDigits (by decide) (by decide) digit
    simp only [Char.isDigit, Bool.and_eq_true, decide_eq_true_eq, ge_iff_le,
      UInt32.le_iff_toNat_le] at bounds
    exact (isDigit_iff c).mpr bounds

theorem valueOf_padded : valueOf (padded width n) = n := by
  rw [valueOf_eq, padded, Nat.ofDigitChars_append, Nat.ofDigitChars_replicate_zero, Nat.mul_zero,
    Nat.ofDigitChars_toDigits (by decide) (by decide)]

theorem padded_begins : ∃ c rest, padded width n = c :: rest ∧ isDigit c := by
  cases begins : padded width n with
  | nil =>
      have length := congrArg List.length begins
      have counted := Nat.length_toDigits_pos (b := 10) (n := n)
      simp only [padded, List.length_append, List.length_nil] at length
      omega
  | cons c rest => exact ⟨c, rest, rfl, isDigit_padded width n (begins ▸ List.mem_cons_self ..)⟩

/-- All digits of a text are taken, however many there are. -/
theorem takeWhile_padded {c : Char} (other : isDigit c = false) (rest : List Char) :
    (padded width n ++ c :: rest).takeWhile isDigit = padded width n := by
  rw [List.takeWhile_append_of_pos fun _ => isDigit_padded width n,
    List.takeWhile_cons_of_neg (by simp [other]), List.append_nil]

variable {width n}

theorem length_padded (wide : 0 < width) (h : n < Nat.pow 10 width) :
    (padded width n).length = width := by
  have short := (Nat.length_toDigits_le_iff (b := 10) (by decide) wide).mpr h
  simp only [padded, List.length_append, List.length_replicate]
  omega

theorem takeNumber_padded (wide : 0 < width) (h : n < Nat.pow 10 width) (rest : List Char) :
    takeNumber width (padded width n ++ rest) = some (n, rest) := by
  obtain ⟨c, others, begins, digit⟩ := padded_begins width n
  have trimmed : Text.trimStart (padded width n ++ rest) = padded width n ++ rest := by
    rw [begins, List.cons_append, trimStart_cons (not_blank_of_isDigit digit)]
  have digits : ((padded width n ++ rest).takeWhile isDigit).take width = padded width n := by
    rw [List.takeWhile_append_of_pos fun _ => isDigit_padded width n,
      List.take_append_of_le_length (Nat.le_of_eq (length_padded wide h).symm),
      List.take_of_length_le (Nat.le_of_eq (length_padded wide h))]
  have nonempty : padded width n ≠ [] := by simp [begins]
  simp only [takeNumber, trimmed, digits, if_neg nonempty, valueOf_padded, List.drop_left]

end Padded

/-! ## Parts -/

theorem after_cons (mark : Char) (h : Text.isBlankChar mark = false) (rest : List Char) :
    after mark (mark :: rest) = some rest := by
  simp [after, trimStart_cons h]

theorem takeYear_printYear (year : Int) (rest : List Char) :
    takeYear (printYear year ++ '-' :: rest) = some (year, '-' :: rest) := by
  by_cases short : 0 ≤ year ∧ year ≤ 9999
  · obtain ⟨c, others, begins, digit⟩ := padded_begins 4 year.toNat
    have number : takeNumber 4 (padded 4 year.toNat ++ '-' :: rest) =
        some (year.toNat, '-' :: rest) :=
      takeNumber_padded (by decide) (by change year.toNat < 10000; omega) _
    have whole : (year.toNat : Int) = year := by omega
    have minus : c ≠ '-' := by
      rintro rfl
      exact absurd digit (by decide)
    have plus : c ≠ '+' := by
      rintro rfl
      exact absurd digit (by decide)
    rw [begins, List.cons_append] at number
    rw [printYear, if_pos short, begins, List.cons_append, takeYear,
      trimStart_cons (not_blank_of_isDigit digit)]
    simp [number, whole, minus, plus]
  · obtain ⟨c, others, begins, digit⟩ := padded_begins 4 year.natAbs
    have digits := takeWhile_padded 4 year.natAbs (c := '-') (by decide) rest
    have signed : takeYear.signed (padded 4 year.natAbs ++ '-' :: rest) =
        some (year.natAbs, '-' :: rest) := by
      have nonempty : padded 4 year.natAbs ≠ [] := by simp [begins]
      simp only [takeYear.signed, digits, if_neg nonempty, valueOf_padded, List.drop_left]
    rw [printYear, if_neg short, List.cons_append, takeYear]
    by_cases negative : year < 0
    · have whole : -(year.natAbs : Int) = year := by omega
      generalize year.natAbs = n at signed whole
      rw [if_pos negative, trimStart_cons (by decide)]
      simp [signed, whole]
    · have whole : (year.natAbs : Int) = year := by omega
      generalize year.natAbs = n at signed whole
      rw [if_neg negative, trimStart_cons (by decide)]
      simp [signed, whole]

theorem takeFraction_printed {width n : Nat} (wide : 0 < width) (short : width ≤ 9)
    (h : n < Nat.pow 10 width) :
    takeFraction ('.' :: padded width n ++ ['Z']) =
      some (n * Nat.pow 10 (9 - width), ['Z']) := by
  obtain ⟨c, others, begins, digit⟩ := padded_begins width n
  have digits := takeWhile_padded width n (c := 'Z') (by decide) []
  have length := length_padded wide h
  have kept : (padded width n).take 9 = padded width n :=
    List.take_of_length_le (by omega)
  have left : (padded width n ++ ['Z']).drop width = ['Z'] := List.drop_left' length
  have nonempty : padded width n ≠ [] := by simp [begins]
  simp only [takeFraction, List.cons_append, digits, if_neg nonempty, kept, valueOf_padded,
    length, left]

theorem takeFraction_printFraction {nano : Nat} (h : nano < 1000000000) :
    takeFraction (printFraction nano ++ ['Z']) = some (nano, ['Z']) := by
  unfold printFraction
  split
  · next whole => simp [takeFraction, whole]
  · split
    · rw [takeFraction_printed (by decide) (by decide) (by change _ < 1000; omega)]
      simp only [Option.some.injEq, Prod.mk.injEq, and_true]
      change nano / 1000000 * 1000000 = nano
      omega
    · split
      · rw [takeFraction_printed (by decide) (by decide) (by change _ < 1000000; omega)]
        simp only [Option.some.injEq, Prod.mk.injEq, and_true]
        change nano / 1000 * 1000 = nano
        omega
      · rw [takeFraction_printed (by decide) (by decide) h]
        exact congrArg (fun n => some (n, ['Z'])) (Nat.mul_one nano)

/-! ## Moments -/

/-- Clocks of UTC that show the date and the time of a moment are at that moment. -/
theorem ofLocal_printed {t : Timestamp} (h : t.Valid) :
    ofLocal (dateOfDay t.day) (t.second / 3600) (t.second / 60 % 60)
      (t.second % 60 + t.nano / 1000000000) (t.nano % 1000000000) 0 = some t := by
  obtain ⟨day, second, nano⟩ := t
  obtain ⟨inDay, bound, leap, year⟩ := h
  obtain ⟨firstMonth, lastMonth, firstDay, lastDay⟩ := dateOfDay_proper day
  simp only at inDay bound leap year
  have clock : ((second / 3600 : Nat) * 3600 + (second / 60 % 60 : Nat) * 60 +
      (if second % 60 + nano / 1000000000 = 60 then 59 else second % 60 + nano / 1000000000 : Nat) -
        0 : Int) = second := by
    split <;> omega
  have early : (second : Int) / 86400 = 0 ∧ (second : Int) % 86400 = second := by omega
  have shown : second / 3600 < 24 ∧ second / 60 % 60 < 60 ∧
      second % 60 + nano / 1000000000 ≤ 60 := by omega
  have nanos : (if second % 60 + nano / 1000000000 = 60 then nano % 1000000000 + 1000000000
      else nano % 1000000000) = nano := by
    split <;> omega
  unfold ofLocal
  simp only [clock, early, nanos, dayOfDate_dateOfDay, Int.add_zero]
  rw [if_pos]
  · rfl
  · exact ⟨firstMonth, lastMonth, firstDay, lastDay, year, shown.1, shown.2.1, shown.2.2, by decide,
      by decide, year⟩

/-- A moment is read back from its printed form. -/
theorem parse_print {t : Timestamp} (h : t.Valid) : parse (String.ofList t.print) = some t := by
  obtain ⟨-, month, -, day⟩ := dateOfDay_proper t.day
  have long (year : Int) (month : Nat) : daysInMonth year month ≤ 31 := by
    unfold daysInMonth
    split
    · split <;> decide
    · split <;> decide
  have short := Nat.le_trans day (long _ _)
  have second := h.second
  have nano := h.nano
  have two {n : Nat} (small : n < 100) (rest : List Char) :
      takeNumber 2 (padded 2 n ++ rest) = some (n, rest) :=
    takeNumber_padded (by decide) small rest
  have fraction : takeFraction (printFraction (t.nano % 1000000000) ++ ['Z']) =
      some (t.nano % 1000000000, ['Z']) := takeFraction_printFraction (by omega)
  have dash := after_cons '-' (by decide)
  have colon := after_cons ':' (by decide)
  have offset : takeOffset (Text.trimStart ['Z']) = some (0, []) := by decide
  unfold parse print
  simp only [String.toList_ofList, List.append_assoc, List.cons_append, takeYear_printYear, dash,
    bind, Option.bind_some]
  rw [two (by omega), Option.bind_some]
  simp only [dash, Option.bind_some]
  rw [two (by omega), Option.bind_some]
  simp only [true_or, if_true]
  rw [two (by omega), Option.bind_some]
  simp only [colon, Option.bind_some]
  rw [two (by omega), Option.bind_some]
  simp only [colon, Option.bind_some]
  rw [two (by omega), Option.bind_some]
  simp only [fraction, offset, Option.bind_some]
  exact ofLocal_printed h

/-! ## What is read -/

theorem foldl_digits_lt {digits : List Char} (h : ∀ c ∈ digits, isDigit c) (n : Nat) :
    digits.foldl (fun n c => n * 10 + (c.toNat - 48)) n < (n + 1) * Nat.pow 10 digits.length := by
  induction digits generalizing n with
  | nil => simp
  | cons c rest ih =>
      have digit := (isDigit_iff c).mp (h c (List.mem_cons_self ..))
      have later :=
        ih (fun c member => h c (List.mem_cons_of_mem _ member)) (n * 10 + (c.toNat - 48))
      have power : Nat.pow 10 (c :: rest).length = 10 * Nat.pow 10 rest.length :=
        Nat.mul_comm _ 10
      have step : n * 10 + (c.toNat - 48) + 1 ≤ (n + 1) * 10 := by omega
      rw [List.foldl_cons, power, ← Nat.mul_assoc]
      exact Nat.lt_of_lt_of_le later (Nat.mul_le_mul_right _ step)

theorem valueOf_lt {digits : List Char} (h : ∀ c ∈ digits, isDigit c) :
    valueOf digits < Nat.pow 10 digits.length := by
  have bound := foldl_digits_lt h 0
  rw [Nat.zero_add, Nat.one_mul] at bound
  exact bound

theorem takeFraction_lt {cs rest : List Char} {nano : Nat}
    (h : takeFraction cs = some (nano, rest)) : nano < 1000000000 := by
  unfold takeFraction at h
  split at h
  · next after =>
      simp only [Option.ite_none_left_eq_some, Option.some.injEq, Prod.mk.injEq] at h
      obtain ⟨-, rfl, -⟩ := h
      generalize kept : (after.takeWhile isDigit).take 9 = digits
      have short : digits.length ≤ 9 := by
        rw [← kept, List.length_take]
        exact Nat.min_le_left 9 _
      have bound : valueOf digits < Nat.pow 10 digits.length := by
        apply valueOf_lt
        intro c member
        rw [← kept] at member
        exact (List.all_eq_true.mp List.all_takeWhile) c (List.mem_of_mem_take member)
      have whole : Nat.pow 10 digits.length * Nat.pow 10 (9 - digits.length) = 1000000000 := by
        rw [show 1000000000 = Nat.pow 10 (digits.length + (9 - digits.length)) by
          rw [Nat.add_sub_cancel' short]]
        exact (Nat.pow_add 10 _ _).symm
      rw [← whole]
      exact Nat.mul_lt_mul_of_pos_right bound (Nat.pow_pos (by decide))
  · obtain ⟨rfl, -⟩ := Prod.mk.inj (Option.some.inj h)
    decide

/-- Offsets are whole minutes. -/
theorem takeOffset_minutes {cs rest : List Char} {offset : Int}
    (h : takeOffset cs = some (offset, rest)) : offset % 60 = 0 := by
  have signed (sign : Int) (hour minute : Nat) :
      sign * ((hour * 3600 + minute * 60 : Nat) : Int) % 60 = 0 := by
    have whole : ((hour * 3600 + minute * 60 : Nat) : Int) = 60 * (hour * 60 + minute : Nat) := by
      omega
    rw [whole, Int.mul_left_comm]
    exact Int.mul_emod_right 60 _
  unfold takeOffset at h
  split at h
  · cases h
  · split at h
    · obtain ⟨rfl, -⟩ := Prod.mk.inj (Option.some.inj h)
      rfl
    · split at h
      · obtain ⟨rfl, -⟩ := Prod.mk.inj (Option.some.inj h)
        rfl
      · simp only at h
        split at h
        · split at h
          · split at h
            · simp only [Option.ite_none_right_eq_some, Option.some.injEq, Prod.mk.injEq] at h
              obtain ⟨-, rfl, -⟩ := h
              exact signed _ _ _
            · cases h
          · cases h
        · cases h

/-- A moment that was read is one that the calendar has. -/
theorem ofLocal_valid {date : Date} {hour minute second nano : Nat} {offset : Int} {t : Timestamp}
    (fraction : nano < 1000000000) (minutes : offset % 60 = 0)
    (h : ofLocal date hour minute second nano offset = some t) : t.Valid := by
  simp only [ofLocal, Option.ite_none_right_eq_some, Option.some.injEq] at h
  obtain ⟨⟨-, -, -, -, -, -, -, -, -, -, year⟩, rfl⟩ := h
  by_cases leap : second = 60
  · simp only [leap, if_true] at year ⊢
    exact ⟨by simp only; omega, by simp only; omega, by simp only; omega, year⟩
  · simp only [leap, if_false] at year ⊢
    exact ⟨by simp only; omega, by simp only; omega, by simp only; omega, year⟩

theorem parse_valid {text : String} {t : Timestamp} (h : parse text = some t) : t.Valid := by
  unfold parse at h
  simp only [bind, Option.bind_eq_some_iff, Prod.exists] at h
  obtain ⟨year, cs, -, cs, -, month, cs, -, cs, -, day, cs, -, h⟩ := h
  split at h
  · cases h
  · simp only [Option.ite_none_right_eq_some, Option.bind_eq_some_iff, Prod.exists] at h
    obtain ⟨-, hour, cs, -, cs, -, minute, cs, -, cs, -, second, cs, -, nano, cs, fraction,
      offset, cs, minutes, -, shown⟩ := h
    exact ofLocal_valid (takeFraction_lt fraction) (takeOffset_minutes minutes) shown

end RemoteDesk.Timestamp
