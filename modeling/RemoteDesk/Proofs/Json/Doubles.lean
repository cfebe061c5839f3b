import RemoteDesk.Proofs.Json.Numerals

/-! # Doubles in JSON

What is printed for a double is a numeral: digits with a point among them or behind them, or one
digit with an exponent. Zeros that would stand needlessly in front are not printed.
-/

namespace RemoteDesk

namespace Decimal

/-- Zero is written without an exponent. -/
def Scaled.Plain (s : Scaled) : Prop :=
  s.digits = 0 → s.exponent = 0

theorem digits_onGrid {i : Interval} {value : Ratio} {exponent : Int} {s : Scaled}
    (h : onGrid i value exponent = some s) : s.digits ≠ 0 := by
  unfold onGrid at h
  generalize (if 0 ≤ exponent then value.num / (value.den * Nat.pow 10 exponent.toNat)
    else value.num * Nat.pow 10 (-exponent).toNat / value.den) = below at h
  simp only [Bool.and_eq_true, decide_eq_true_eq] at h
  split at h
  · next both =>
      split at h
      · obtain rfl := Option.some.inj h
        exact both.1.1
      · obtain rfl := Option.some.inj h
        exact Nat.succ_ne_zero _
  · split at h
    · next fits =>
        obtain rfl := Option.some.inj h
        exact fits.1
    · split at h
      · obtain rfl := Option.some.inj h
        exact Nat.succ_ne_zero _
      · cases h

theorem plain_firstGrid (i : Interval) (value : Ratio) (exponent : Int) (more : Nat) :
    (firstGrid i value exponent more).Plain := by
  induction more generalizing exponent with
  | zero => exact fun _ => rfl
  | succ more ih =>
      unfold firstGrid
      cases found : onGrid i value exponent with
      | some s => exact fun zero => (digits_onGrid found zero).elim
      | none => exact ih (exponent - 1)

theorem Scaled.Plain.trim {s : Scaled} (h : s.Plain) (fuel : Nat) : (s.trim fuel).Plain := by
  induction fuel generalizing s with
  | zero => exact h
  | succ fuel ih =>
      unfold Scaled.trim
      split
      · next tens =>
          apply ih
          intro zero
          simp only at zero
          omega
      · exact h

theorem plain_shortest (x : Double) : (shortest x).Plain :=
  (plain_firstGrid _ _ _ _).trim 20

end Decimal

namespace Json

open Decimal

/-- Digits with zeros in front of them, one before a point that has `places` digits behind it. -/
def paddedDigits (ds : List Nat) (places : Nat) : List Nat :=
  List.replicate (places + 1 - ds.length) 0 ++ ds

/-- The numeral that a magnitude is printed as. -/
def scaledNumeral (negative : Bool) (s : Scaled) : Numeral :=
  let ds := digits s.digits
  let lead : Int := s.exponent + ds.length
  let places := (-s.exponent).toNat
  let padded := paddedDigits ds places
  if 0 ≤ s.exponent ∧ lead ≤ 16 then
    ⟨negative, ds ++ List.replicate s.exponent.toNat 0, some [0], none⟩
  else if s.exponent < 0 ∧ -5 < lead ∧ lead ≤ 16 then
    ⟨negative, padded.take (padded.length - places), some (padded.drop (padded.length - places)),
      none⟩
  else
    ⟨negative, ds.take 1, if ds.drop 1 = [] then none else some (ds.drop 1),
      some (lead - 1 < 0, digits (lead - 1).natAbs)⟩

theorem magnitude_scaledNumeral (negative : Bool) (s : Scaled) :
    (scaledNumeral negative s).magnitude = s.text := by
  have written (n : Nat) : (digits n).map Nat.digitChar = Nat.toDigits 10 n := digitChars_digits n
  have length : (Nat.toDigits 10 s.digits).length = (digits s.digits).length := by
    rw [← written, List.length_map]
  have zero : Nat.digitChar 0 = '0' := rfl
  unfold scaledNumeral Scaled.text
  simp only [length]
  split
  · simp [Numeral.magnitude, Numeral.fractionText, Numeral.powerText, digitChars, written, zero]
  · split
    · simp [Numeral.magnitude, Numeral.fractionText, Numeral.powerText, digitChars, positional,
        paddedDigits, List.map_take, List.map_drop, written, length, zero]
    · rw [← written s.digits]
      rcases digits s.digits with _ | ⟨d, _ | ⟨e, rest⟩⟩ <;>
        simp [Numeral.magnitude, Numeral.fractionText, Numeral.powerText, digitChars, signText,
          written]

theorem lt_of_mem_paddedDigits {n places d : Nat} (h : d ∈ paddedDigits (digits n) places) :
    d < 10 := by
  rcases List.mem_append.mp h with zeros | digit
  · obtain rfl := List.eq_of_mem_replicate zeros
    decide
  · exact lt_of_mem_digits digit

/-- Of the digits before the point only a single one is zero. -/
theorem lead_paddedDigits {n places : Nat} (positive : n ≠ 0) :
    let before := (paddedDigits (digits n) places).take
      ((paddedDigits (digits n) places).length - places)
    before.head? = some 0 → before = [0] := by
  intro before zero
  by_cases long : places + 1 ≤ (digits n).length
  · have bare : paddedDigits (digits n) places = digits n := by
      simp [paddedDigits, Nat.sub_eq_zero_of_le long]
    have first : before.head? = (digits n).head? := by
      simp only [before, bare]
      rw [List.head?_take, if_neg (by omega)]
    exact (positive (head_digits (first ▸ zero))).elim
  · have length : (paddedDigits (digits n) places).length - places = 1 := by
      simp only [paddedDigits, List.length_append, List.length_replicate]
      omega
    simp only [before, length] at zero ⊢
    cases padded : paddedDigits (digits n) places with
    | nil => simp [padded] at zero
    | cons d rest => simpa [padded] using zero

theorem integral_proper (negative : Bool) {s : Scaled} (h : s.Plain) :
    Numeral.Proper
      ⟨negative, digits s.digits ++ List.replicate s.exponent.toNat 0, some [0], none⟩ := by
  refine ⟨?_, ?_, ?_, by simp, by simp⟩
  · intro d member
    rcases List.mem_append.mp member with digit | zeros
    · exact lt_of_mem_digits digit
    · obtain rfl := List.eq_of_mem_replicate zeros
      decide
  · simp [digits_ne_nil]
  · intro zero
    have vanishes : s.digits = 0 := by
      apply head_digits
      cases ds : digits s.digits with
      | nil => exact (digits_ne_nil _ ds).elim
      | cons d rest => simpa [ds] using zero
    simp [vanishes, h vanishes, digits_eq 0]

theorem positional_proper (negative : Bool) {n places : Nat} (positive : n ≠ 0)
    (placed : 0 < places) :
    let padded := paddedDigits (digits n) places
    Numeral.Proper ⟨negative, padded.take (padded.length - places),
      some (padded.drop (padded.length - places)), none⟩ := by
  intro padded
  have long : places < padded.length := by
    simp only [padded, paddedDigits, List.length_append, List.length_replicate]
    omega
  refine ⟨?_, ?_, lead_paddedDigits positive, ?_, by simp⟩
  · intro d member
    exact lt_of_mem_paddedDigits (List.mem_of_mem_take member)
  · intro nothing
    have length := congrArg List.length nothing
    simp only [List.length_take, List.length_nil] at length
    omega
  · intro ds same
    obtain rfl := Option.some.inj same
    refine ⟨?_, fun d member => lt_of_mem_paddedDigits (List.mem_of_mem_drop member)⟩
    intro nothing
    have length := congrArg List.length nothing
    simp only [List.length_drop, List.length_nil] at length
    omega

theorem scientific_proper (negative : Bool) (n : Nat) (power : Int) :
    Numeral.Proper ⟨negative, (digits n).take 1,
      if (digits n).drop 1 = [] then none else some ((digits n).drop 1),
      some (power < 0, digits power.natAbs)⟩ := by
  refine ⟨?_, ?_, ?_, ?_, ?_⟩
  · intro d member
    exact lt_of_mem_digits (List.mem_of_mem_take member)
  · simp [digits_ne_nil]
  · intro zero
    cases ds : digits n with
    | nil => exact (digits_ne_nil _ ds).elim
    | cons d rest => simpa [ds] using zero
  · intro ds same
    simp only [Option.mem_def, Option.ite_none_left_eq_some, Option.some.injEq] at same
    obtain ⟨nonempty, rfl⟩ := same
    exact ⟨nonempty, fun d member => lt_of_mem_digits (List.mem_of_mem_drop member)⟩
  · intro p same
    obtain rfl := Option.some.inj same
    exact ⟨digits_ne_nil _, fun d member => lt_of_mem_digits member⟩

theorem scaledNumeral_proper (negative : Bool) {s : Scaled} (h : s.Plain) :
    (scaledNumeral negative s).Proper := by
  unfold scaledNumeral
  simp only
  split
  · exact integral_proper negative h
  · split
    · next small =>
        have positive : s.digits ≠ 0 := by
          intro vanishes
          have := h vanishes
          omega
        exact positional_proper negative positive (by omega)
    · exact scientific_proper negative s.digits _

theorem negative_scaledNumeral (negative : Bool) (s : Scaled) :
    (scaledNumeral negative s).negative = negative := by
  unfold scaledNumeral
  simp only
  split
  · rfl
  · split <;> rfl

/-! ## Numbers -/

/-- The numeral that a number is printed as. -/
def numeral : Number → Numeral
  | .whole n => wholeNumeral n
  | .double x =>
    if x.isZero then ⟨x.isNegative, [0], some [0], none⟩
    else scaledNumeral x.isNegative (shortest x)

theorem numeral_proper (n : Number) : (numeral n).Proper := by
  cases n with
  | whole n => exact wholeNumeral_proper n
  | double x =>
      by_cases zero : x.isZero
      · simp only [numeral, zero, if_true]
        exact ⟨by simp, by simp, by simp, by simp, by simp⟩
      · simp only [numeral, zero]
        exact scaledNumeral_proper x.isNegative (plain_shortest x)

/-- A number is printed as a numeral. -/
theorem print_number (n : Number) : n.print = (numeral n).text := by
  cases n with
  | whole n => exact print_whole n
  | double x =>
      by_cases zero : x.isZero <;> by_cases minus : x.isNegative <;>
        simp [Number.print, Decimal.text, numeral, Numeral.text, negative_scaledNumeral,
          magnitude_scaledNumeral, zero, minus, signText]
      all_goals rfl

end Json

end RemoteDesk
