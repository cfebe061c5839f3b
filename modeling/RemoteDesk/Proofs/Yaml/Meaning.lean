import RemoteDesk.Proofs.Json.Numerals
import RemoteDesk.Yaml.Meaning

/-! # Numbers as words

A whole number is written by its decimal digits, without needless zeros before them. So it is not
taken for a text, and it says the number that it was written for.
-/

namespace RemoteDesk.Yaml.Meaning

theorem hexValue?_of_isDigit {c : Char} (h : c.isDigit) :
    hexValue? c = some (c.toNat - '0'.toNat) ∧ c.toNat - '0'.toNat < 10 := by
  simp only [Char.isDigit, Bool.and_eq_true, decide_eq_true_eq, ge_iff_le] at h
  have range : '0' ≤ c ∧ c ≤ '9' := h
  have most : c.toNat ≤ 57 := UInt32.le_iff_toNat_le.mp h.2
  refine ⟨if_pos range, ?_⟩
  have zero : '0'.toNat = 48 := rfl
  omega

theorem digits?_of_decimal {cs : List Char} (decimal : ∀ c ∈ cs, c.isDigit) (nonempty : cs ≠ []) :
    digits? 10 cs = some (Nat.ofDigitChars 10 cs 0) := by
  rw [digits?, if_neg nonempty]
  generalize 0 = n
  clear nonempty
  induction cs generalizing n with
  | nil => rfl
  | cons c cs ih =>
      obtain ⟨first, others⟩ := List.forall_mem_cons.mp decimal
      obtain ⟨value, small⟩ := hexValue?_of_isDigit first
      rw [List.foldlM_cons, value, Nat.ofDigitChars_cons, Nat.mul_comm, ← ih others]
      simp only [bind, Option.bind_some, if_pos small]

/-- Only zero is written with a zero in front. -/
theorem head_toDigits {n : Nat} (h : (Nat.toDigits 10 n).head? = some '0') : n = 0 := by
  refine Json.head_digits ?_
  rw [Json.digits, List.head?_map, h]
  rfl

/-- The digits of a number say that number. -/
theorem natural?_toDigits (n : Nat) : natural? (Nat.toDigits 10 n) = some n := by
  have decimal : ∀ c ∈ Nat.toDigits 10 n, c.isDigit := fun c h =>
    Nat.isDigit_of_mem_toDigits (by decide) (by decide) h
  have read := digits?_of_decimal decimal Nat.toDigits_ne_nil
  rw [Nat.ofDigitChars_toDigits (by decide) (by decide)] at read
  cases n with
  | zero => decide
  | succ n =>
      obtain ⟨c, rest, digits⟩ :=
        List.exists_cons_of_ne_nil (Nat.toDigits_ne_nil (n := n + 1) (b := 10))
      have first : c.isDigit := decimal c (by simp [digits])
      have zero : c ≠ '0' := by
        rintro rfl
        exact Nat.succ_ne_zero n (head_toDigits (by rw [digits]; rfl))
      have plus : c ≠ '+' := by
        rintro rfl
        cases first
      have minus : c ≠ '-' := by
        rintro rfl
        cases first
      rw [digits] at read ⊢
      simp [natural?, magnitude?, isPadded, unsigned, zero, plus, minus, read]

end RemoteDesk.Yaml.Meaning
