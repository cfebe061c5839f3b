import RemoteDesk.Proofs.Json.Strings

/-! # Numbers of JSON

A numeral is a row of digits, with more digits behind a point and in an exponent if there are such
parts. It is read back from its text, if it is written without needless zeros before its digits and
if what follows cannot be taken for a part of it. What is printed for a number is the text of such a
numeral, and whole numbers of 64 bits have the value that they are printed for.
-/

namespace RemoteDesk.Json

open Source

/-! ## Digits -/

def digitChars (digits : List Nat) : List Char :=
  digits.map Nat.digitChar

/-- The digits of a number, the most significant first. -/
def digits (n : Nat) : List Nat :=
  (Nat.toDigits 10 n).map digitValue

theorem isDigit_digitChar {d : Nat} (h : d < 10) : isDigit d.digitChar := by
  have all : ∀ d < 10, isDigit d.digitChar := by decide
  exact all d h

theorem digitValue_digitChar {d : Nat} (h : d < 10) : digitValue d.digitChar = d := by
  have all : ∀ d < 10, digitValue d.digitChar = d := by decide
  exact all d h

theorem digits_eq (n : Nat) :
    digits n = if n < 10 then [n] else digits (n / 10) ++ [n % 10] := by
  unfold digits
  rw [Nat.toDigits_eq_if (by decide)]
  split
  · next small => simp [digitValue_digitChar small]
  · simp [digitValue_digitChar (Nat.mod_lt n (by decide))]

theorem digitChars_digits (n : Nat) : digitChars (digits n) = Nat.toDigits 10 n := by
  induction n using Nat.strongRecOn with
  | ind n ih =>
      rw [digits_eq, Nat.toDigits_eq_if (by decide)]
      split
      · rfl
      · rw [← ih (n / 10) (by omega)]
        simp [digitChars]

theorem digits_ne_nil (n : Nat) : digits n ≠ [] := by
  rw [digits_eq]
  split <;> simp

theorem lt_of_mem_digits {n d : Nat} (h : d ∈ digits n) : d < 10 := by
  induction n using Nat.strongRecOn with
  | ind n ih =>
      rw [digits_eq] at h
      split at h
      · next small =>
          obtain rfl := List.mem_singleton.mp h
          exact small
      · rcases List.mem_append.mp h with earlier | last
        · exact ih (n / 10) (by omega) earlier
        · obtain rfl := List.mem_singleton.mp last
          exact Nat.mod_lt n (by decide)

/-- Only zero is written with a zero in front. -/
theorem head_digits {n : Nat} (h : (digits n).head? = some 0) : n = 0 := by
  induction n using Nat.strongRecOn with
  | ind n ih =>
      rw [digits_eq] at h
      split at h
      · simpa using h
      · next large =>
          cases before : digits (n / 10) with
          | nil => exact (digits_ne_nil _ before).elim
          | cons first others =>
              have vanishes := ih (n / 10) (by omega) (by simpa [before] using h)
              omega

/-! ## Reading digits -/

/-- The text begins with no digit. -/
def Undigited (cs : List Char) : Prop :=
  ∀ c ∈ cs.head?, isDigit c = false

theorem takeDigits_digitChars {ds : List Nat} (proper : ∀ d ∈ ds, d < 10) {rest : List Char}
    (stops : Undigited rest) : takeDigits (digitChars ds ++ rest) = (ds, rest) := by
  have all : ∀ c ∈ digitChars ds, isDigit c := by
    intro c member
    obtain ⟨d, among, rfl⟩ := List.mem_map.mp member
    exact isDigit_digitChar (proper d among)
  have values : (digitChars ds).map digitValue = ds := by
    rw [digitChars, List.map_map]
    exact (List.map_congr_left fun d among => digitValue_digitChar (proper d among)).trans
      (List.map_id ds)
  have untaken : rest.takeWhile isDigit = [] ∧ rest.dropWhile isDigit = rest := by
    cases rest with
    | nil => simp
    | cons c others =>
        have other := stops c rfl
        simp [other]
  unfold takeDigits
  rw [List.takeWhile_append_of_pos all, List.dropWhile_append_of_pos all, untaken.1, untaken.2,
    List.append_nil, values]

/-! ## Numerals -/

def signText (negative : Bool) : List Char :=
  if negative then ['-'] else []

def Numeral.fractionText (n : Numeral) : List Char :=
  match n.fraction with
  | none => []
  | some ds => '.' :: digitChars ds

def Numeral.powerText (n : Numeral) : List Char :=
  match n.power with
  | none => []
  | some (negative, ds) => 'e' :: signText negative ++ digitChars ds

/-- A numeral as it is written after its sign. -/
def Numeral.magnitude (n : Numeral) : List Char :=
  digitChars n.whole ++ (n.fractionText ++ n.powerText)

/-- Each part has digits, and only zero starts with zero. -/
structure Numeral.Proper (n : Numeral) : Prop where
  whole : ∀ d ∈ n.whole, d < 10
  begins : n.whole ≠ []
  lead : n.whole.head? = some 0 → n.whole = [0]
  fraction : ∀ ds ∈ n.fraction, ds ≠ [] ∧ ∀ d ∈ ds, d < 10
  power : ∀ p ∈ n.power, p.2 ≠ [] ∧ ∀ d ∈ p.2, d < 10

/-- What follows a numeral cannot be taken for a part of it. -/
def Stops (rest : List Char) : Prop :=
  ∀ c ∈ rest.head?, isDigit c = false ∧ c ≠ '.' ∧ c ≠ 'e' ∧ c ≠ 'E'

theorem Stops.undigited {rest : List Char} (h : Stops rest) : Undigited rest :=
  fun c first => (h c first).1

theorem undigited_cons {c : Char} (other : isDigit c = false) (rest : List Char) :
    Undigited (c :: rest) := by
  intro d first
  obtain rfl : c = d := Option.some.inj first
  exact other

theorem readPower_text {negative : Bool} {ds : List Nat} (nonempty : ds ≠ [])
    (proper : ∀ d ∈ ds, d < 10) {rest : List Char} (stops : Stops rest) :
    readPower (signText negative ++ (digitChars ds ++ rest)) = some ((negative, ds), rest) := by
  have taken := takeDigits_digitChars proper stops.undigited
  cases ds with
  | nil => exact (nonempty rfl).elim
  | cons d others =>
      cases negative with
      | true => simp [readPower, signText, taken]
      | false =>
          have digit := isDigit_digitChar (proper d (List.mem_cons_self ..))
          have minus : d.digitChar ≠ '-' := by
            intro same
            simp [same, isDigit] at digit
          have plus : d.digitChar ≠ '+' := by
            intro same
            simp [same, isDigit] at digit
          simp only [digitChars, List.map_cons, List.cons_append] at taken
          simp [readPower, signText, digitChars, minus, plus, taken]

/-- What is read after the digits behind the point, if there are any. -/
def afterFraction (negative : Bool) (whole : List Nat) (fraction : Option (List Nat)) :
    List Char → Option (Numeral × List Char)
  | [] => some (⟨negative, whole, fraction, none⟩, [])
  | c :: rest =>
    if c = 'e' ∨ c = 'E' then
      (readPower rest).map fun (power, rest) => (⟨negative, whole, fraction, some power⟩, rest)
    else some (⟨negative, whole, fraction, none⟩, c :: rest)

section Parts

variable {negative : Bool} {cs after rest : List Char} {d e : Nat} {ds es : List Nat}

theorem readNumeral_of_whole (taken : takeDigits cs = (d :: ds, rest)) (lead : d = 0 → ds = [])
    (pointless : rest.head? ≠ some '.') :
    readNumeral negative cs = afterFraction negative (d :: ds) none rest := by
  rcases d with _ | d
  case' zero => obtain rfl := lead rfl
  all_goals
    cases rest with
    | nil => simp [readNumeral, taken, afterFraction]
    | cons c rest =>
        have other : c ≠ '.' := by simpa using pointless
        by_cases power : c = 'e' ∨ c = 'E'
        · cases read : readPower rest <;>
            simp [readNumeral, taken, afterFraction, other, power, read]
        · simp [readNumeral, taken, afterFraction, other, power]

theorem readNumeral_of_point (taken : takeDigits cs = (d :: ds, '.' :: after))
    (lead : d = 0 → ds = []) (taken' : takeDigits after = (e :: es, rest)) :
    readNumeral negative cs = afterFraction negative (d :: ds) (some (e :: es)) rest := by
  rcases d with _ | d
  case' zero => obtain rfl := lead rfl
  all_goals
    cases rest with
    | nil => simp [readNumeral, taken, taken', afterFraction]
    | cons c rest =>
        by_cases power : c = 'e' ∨ c = 'E'
        · cases read : readPower rest <;>
            simp [readNumeral, taken, taken', afterFraction, power, read]
        · simp [readNumeral, taken, taken', afterFraction, power]

end Parts

theorem afterFraction_text {n : Numeral} (h : n.Proper) {rest : List Char} (stops : Stops rest) :
    afterFraction n.negative n.whole n.fraction (n.powerText ++ rest) = some (n, rest) := by
  obtain ⟨negative, whole, fraction, power⟩ := n
  cases power with
  | none =>
      cases rest with
      | nil => rfl
      | cons c others =>
          obtain ⟨-, -, small, capital⟩ := stops c rfl
          simp [Numeral.powerText, afterFraction, small, capital]
  | some p =>
      obtain ⟨sign, ds⟩ := p
      obtain ⟨begins, proper⟩ := h.power _ rfl
      simp [Numeral.powerText, afterFraction, readPower_text begins proper stops]

/-- A numeral is read back from its text. -/
theorem readNumeral_magnitude {n : Numeral} (h : n.Proper) {rest : List Char} (stops : Stops rest) :
    readNumeral n.negative (n.magnitude ++ rest) = some (n, rest) := by
  have ended := afterFraction_text h stops
  obtain ⟨negative, whole, fraction, power⟩ := n
  have unpowered : Undigited (Numeral.powerText ⟨negative, whole, fraction, power⟩ ++ rest) ∧
      (Numeral.powerText ⟨negative, whole, fraction, power⟩ ++ rest).head? ≠ some '.' := by
    cases power with
    | some p => exact ⟨undigited_cons (by decide) _, by simp [Numeral.powerText]⟩
    | none => exact ⟨stops.undigited, fun point => (stops '.' point).2.1 rfl⟩
  cases whole with
  | nil => exact (h.begins rfl).elim
  | cons d ds =>
      have lead : d = 0 → ds = [] := by
        rintro rfl
        simpa using h.lead rfl
      rw [Numeral.magnitude, List.append_assoc, List.append_assoc]
      cases fraction with
      | none => exact (readNumeral_of_whole (takeDigits_digitChars h.whole unpowered.1) lead
          unpowered.2).trans ended
      | some es =>
          obtain ⟨begins, proper⟩ := h.fraction es rfl
          cases es with
          | nil => exact (begins rfl).elim
          | cons e es =>
              exact (readNumeral_of_point
                (takeDigits_digitChars h.whole (undigited_cons (by decide) _)) lead
                (takeDigits_digitChars proper unpowered.1)).trans ended

/-! ## Whole numbers -/

/-- A numeral as it is written. -/
def Numeral.text (n : Numeral) : List Char :=
  signText n.negative ++ n.magnitude

/-- The numeral that a whole number is printed as. -/
def wholeNumeral (n : Int) : Numeral :=
  ⟨n < 0, digits n.natAbs, none, none⟩

theorem wholeNumeral_proper (n : Int) : (wholeNumeral n).Proper where
  whole _ member := lt_of_mem_digits member
  begins := digits_ne_nil _
  lead zero := by
    have vanishes := head_digits zero
    simp [wholeNumeral, vanishes, digits_eq 0]
  fraction := by simp [wholeNumeral]
  power := by simp [wholeNumeral]

theorem print_whole (n : Int) : Number.print (.whole n) = (wholeNumeral n).text := by
  by_cases negative : n < 0 <;>
    simp [Number.print, wholeNumeral, Numeral.text, Numeral.magnitude, Numeral.fractionText,
      Numeral.powerText, signText, digitChars_digits, negative]

/-- The number that digits spell behind others. -/
def valueAfter (n : Nat) (ds : List Nat) : Nat :=
  ds.foldl (fun n d => n * 10 + d) n

theorem le_valueAfter (n : Nat) (ds : List Nat) : n ≤ valueAfter n ds := by
  induction ds generalizing n with
  | nil => exact Nat.le_refl n
  | cons d rest ih =>
      have grown : n * 10 + d ≤ valueAfter (n * 10 + d) rest := ih (n * 10 + d)
      change n ≤ valueAfter (n * 10 + d) rest
      omega

theorem valueAfter_digits (n : Nat) : valueAfter 0 (digits n) = n := by
  induction n using Nat.strongRecOn with
  | ind n ih =>
      rw [digits_eq]
      split
      · simp [valueAfter]
      · have earlier := ih (n / 10) (by omega)
        unfold valueAfter at earlier ⊢
        rw [List.foldl_append, earlier]
        simp only [List.foldl_cons, List.foldl_nil]
        omega

theorem accumulate_of_le {n : Nat} {ds : List Nat} (fits : valueAfter n ds ≤ maxSignificand) :
    accumulate n ds = (valueAfter n ds, 0) := by
  induction ds generalizing n with
  | nil => rfl
  | cons d rest ih =>
      have within : n * 10 + d ≤ maxSignificand := Nat.le_trans (le_valueAfter _ rest) fits
      rw [accumulate, if_pos within]
      exact ih fits

theorem accumulate_le {n : Nat} (fits : n ≤ maxSignificand) (ds : List Nat) :
    (accumulate n ds).1 ≤ maxSignificand := by
  induction ds generalizing n with
  | nil => exact fits
  | cons d rest ih =>
      unfold accumulate
      split
      · next within => exact ih within
      · exact fits

/-- Whole numbers have at most 64 bits. -/
def Number.InRange : Number → Prop
  | .whole n => -9223372036854775808 ≤ n ∧ n ≤ 18446744073709551615
  | .double _ => True

theorem value_wholeNumeral {n : Int} (h : Number.InRange (.whole n)) :
    Numeral.value (wholeNumeral n) = some (.whole n) := by
  obtain ⟨least, greatest⟩ := h
  have kept : accumulate 0 (digits n.natAbs) = (n.natAbs, 0) := by
    have fits : valueAfter 0 (digits n.natAbs) ≤ maxSignificand := by
      rw [valueAfter_digits]
      unfold maxSignificand
      omega
    rw [accumulate_of_le fits, valueAfter_digits]
  unfold Numeral.value wholeNumeral
  simp only [kept]
  by_cases negative : n < 0
  · have bounded : n.natAbs ≠ 0 ∧ n.natAbs ≤ 9223372036854775808 := by omega
    have same : -(n.natAbs : Int) = n := by omega
    generalize n.natAbs = magnitude at bounded same
    simp [negative, bounded, same]
  · have same : (n.natAbs : Int) = n := by omega
    generalize n.natAbs = magnitude at same
    simp [negative, same]

/-- What is read as a whole number is one of 64 bits. -/
theorem inRange_of_value {n : Numeral} {x : Number} (h : Numeral.value n = some x) : x.InRange := by
  cases x with
  | double x => trivial
  | whole k =>
      have scaled (x : Option Float) : x.map (Numeral.value.sign n) ≠ some (.whole k) := by
        cases x <;> simp [Numeral.value.sign]
      have bound := accumulate_le (n := 0) (Nat.zero_le _) n.whole
      unfold Numeral.value at h
      unfold maxSignificand at bound
      generalize accumulate 0 n.whole = counted at h bound
      obtain ⟨first, dropped⟩ := counted
      simp only at h bound
      split at h
      · split at h
        · obtain rfl : (first : Int) = k := by simpa using h
          exact ⟨by omega, by omega⟩
        · split at h
          · next within =>
              obtain rfl : -(first : Int) = k := by simpa using h
              exact ⟨by omega, by omega⟩
          · exact (scaled _ h).elim
      · split at h
        · exact (scaled _ h).elim
        · split at h
          · split at h
            · cases h
            · simp [Numeral.value.sign] at h
          · exact (scaled _ h).elim

end RemoteDesk.Json
