import RemoteDesk.Text.Utf8

/-! # Reading what was encoded

The bytes of a text are read back as the text, whatever follows them. Bytes below 128 stand for
themselves and occur in the encoding of no other character, so an encoded text falls apart around
such a byte into two encoded texts.
-/

namespace RemoteDesk.Utf8

open String

/-! ## Groups of bytes -/

theorem isContinuation_of {b : UInt8} (h : 0x80 ≤ b.toNat ∧ b.toNat ≤ 0xbf) :
    isContinuation b := by
  simpa [isContinuation, UInt8.le_iff_toNat_le] using h

theorem isSecondOfThree_of {a b : UInt8} (h : 0x80 ≤ b.toNat ∧ b.toNat ≤ 0xbf)
    (least : a.toNat = 0xe0 → 0xa0 ≤ b.toNat) (greatest : a.toNat = 0xed → b.toNat ≤ 0x9f) :
    isSecondOfThree a b := by
  simp only [isSecondOfThree, isContinuation_of h, Bool.true_and, Bool.and_eq_true,
    Bool.or_eq_true, bne_iff_ne, decide_eq_true_eq, ne_eq, ← UInt8.toNat_inj,
    UInt8.le_iff_toNat_le, UInt8.reduceToNat]
  omega

theorem isSecondOfFour_of {a b : UInt8} (h : 0x80 ≤ b.toNat ∧ b.toNat ≤ 0xbf)
    (least : a.toNat = 0xf0 → 0x90 ≤ b.toNat) (greatest : a.toNat = 0xf4 → b.toNat ≤ 0x8f) :
    isSecondOfFour a b := by
  simp only [isSecondOfFour, isContinuation_of h, Bool.true_and, Bool.and_eq_true,
    Bool.or_eq_true, bne_iff_ne, decide_eq_true_eq, ne_eq, ← UInt8.toNat_inj,
    UInt8.le_iff_toNat_le, UInt8.reduceToNat]
  omega

section Groups

variable {a b c d : UInt8} (rest : Bytes)

theorem characters_one (ha : a.toNat < 0x80) :
    characters (a :: rest) = some (Char.ofNat a.toNat) :: characters rest := by
  have single : a < 0x80 := UInt8.lt_iff_toNat_lt.mpr ha
  rw [characters.eq_def]
  simp only [if_pos single]

/-- A byte that starts a longer character. -/
theorem not_single (ha : 0xc2 ≤ a.toNat ∧ a.toNat ≤ 0xf4) :
    ¬ a < 0x80 ∧ ¬ (a < 0xc2 || 0xf4 < a) = true := by
  simp only [UInt8.lt_iff_toNat_lt, UInt8.reduceToNat, Bool.or_eq_true, decide_eq_true_eq]
  omega

theorem characters_two (ha : 0xc2 ≤ a.toNat ∧ a.toNat < 0xe0)
    (hb : 0x80 ≤ b.toNat ∧ b.toNat ≤ 0xbf) :
    characters (a :: b :: rest) =
      some (Char.ofNat ((a.toNat - 0xc0) * 64 + low b)) :: characters rest := by
  obtain ⟨high, starts⟩ := not_single (a := a) (by omega)
  have two : a < 0xe0 := UInt8.lt_iff_toNat_lt.mpr ha.2
  rw [characters.eq_def]
  simp only [if_neg high, if_neg starts, if_pos two, if_pos (isContinuation_of hb)]

theorem characters_three (ha : 0xe0 ≤ a.toNat ∧ a.toNat < 0xf0)
    (hb : 0x80 ≤ b.toNat ∧ b.toNat ≤ 0xbf) (hc : 0x80 ≤ c.toNat ∧ c.toNat ≤ 0xbf)
    (least : a.toNat = 0xe0 → 0xa0 ≤ b.toNat) (greatest : a.toNat = 0xed → b.toNat ≤ 0x9f) :
    characters (a :: b :: c :: rest) =
      some (Char.ofNat (((a.toNat - 0xe0) * 64 + low b) * 64 + low c)) :: characters rest := by
  obtain ⟨high, starts⟩ := not_single (a := a) (by omega)
  have two : ¬ a < 0xe0 := UInt8.not_lt.mpr (UInt8.le_iff_toNat_le.mpr ha.1)
  have three : a < 0xf0 := UInt8.lt_iff_toNat_lt.mpr ha.2
  rw [characters.eq_def]
  simp only [if_neg high, if_neg starts, if_neg two, if_pos three,
    if_pos (isSecondOfThree_of hb least greatest), if_pos (isContinuation_of hc)]

theorem characters_four (ha : 0xf0 ≤ a.toNat ∧ a.toNat ≤ 0xf4)
    (hb : 0x80 ≤ b.toNat ∧ b.toNat ≤ 0xbf) (hc : 0x80 ≤ c.toNat ∧ c.toNat ≤ 0xbf)
    (hd : 0x80 ≤ d.toNat ∧ d.toNat ≤ 0xbf) (least : a.toNat = 0xf0 → 0x90 ≤ b.toNat)
    (greatest : a.toNat = 0xf4 → b.toNat ≤ 0x8f) :
    characters (a :: b :: c :: d :: rest) =
      some (Char.ofNat ((((a.toNat - 0xf0) * 64 + low b) * 64 + low c) * 64 + low d))
        :: characters rest := by
  obtain ⟨high, starts⟩ := not_single (a := a) (by omega)
  have three : ¬ a < 0xf0 := UInt8.not_lt.mpr (UInt8.le_iff_toNat_le.mpr ha.1)
  have two : ¬ a < 0xe0 := fun short => three (UInt8.lt_trans short (by decide))
  rw [characters.eq_def]
  simp only [if_neg high, if_neg starts, if_neg two, if_neg three,
    if_pos (isSecondOfFour_of hb least greatest), if_pos (isContinuation_of hc),
    if_pos (isContinuation_of hd)]

end Groups

theorem low_of {b : UInt8} {n : Nat} (h : b.toNat = n + 0x80) : low b = n := by
  change b.toNat - 0x80 = n
  omega

theorem exists_byte {n : Nat} (h : n < 256) : ∃ b : UInt8, UInt8.ofNat n = b ∧ b.toNat = n :=
  ⟨_, rfl, UInt8.toNat_ofNat_of_lt' h⟩

/-- The encoding of a character, by its number. -/
theorem utf8EncodeChar_eq (c : Char) :
    utf8EncodeChar c =
      if c.toNat ≤ 127 then [UInt8.ofNat c.toNat]
      else if c.toNat ≤ 2047 then
        [UInt8.ofNat (c.toNat / 64 % 32 + 192), UInt8.ofNat (c.toNat % 64 + 128)]
      else if c.toNat ≤ 65535 then
        [UInt8.ofNat (c.toNat / 4096 % 16 + 224), UInt8.ofNat (c.toNat / 64 % 64 + 128),
          UInt8.ofNat (c.toNat % 64 + 128)]
      else
        [UInt8.ofNat (c.toNat / 262144 % 8 + 240), UInt8.ofNat (c.toNat / 4096 % 64 + 128),
          UInt8.ofNat (c.toNat / 64 % 64 + 128), UInt8.ofNat (c.toNat % 64 + 128)] :=
  rfl

theorem characters_utf8EncodeChar (c : Char) (rest : Bytes) :
    characters (utf8EncodeChar c ++ rest) = some c :: characters rest := by
  have valid : c.toNat < 55296 ∨ 57343 < c.toNat ∧ c.toNat < 1114112 := c.valid
  have same : Char.ofNat c.toNat = c := Char.ofNat_toNat c
  rw [utf8EncodeChar_eq]
  generalize c.toNat = v at valid same
  -- Each byte gets a name together with its number, so that only numbers are compared below.
  obtain ⟨d, nameD, last⟩ := exists_byte (n := v % 64 + 128) (by omega)
  obtain ⟨c', nameC, third⟩ := exists_byte (n := v / 64 % 64 + 128) (by omega)
  obtain ⟨b, nameB, second⟩ := exists_byte (n := v / 4096 % 64 + 128) (by omega)
  rw [nameB, nameC, nameD]
  clear nameB nameC nameD
  by_cases one : v ≤ 127
  · obtain ⟨a, name, first⟩ := exists_byte (n := v) (by omega)
    rw [if_pos one, name]
    refine (characters_one rest (by omega)).trans ?_
    rw [first, same]
  rw [if_neg one]
  by_cases two : v ≤ 2047
  · obtain ⟨a, name, first⟩ := exists_byte (n := v / 64 % 32 + 192) (by omega)
    have number : (v / 64 % 32 + 192 - 0xc0) * 64 + v % 64 = v := by omega
    rw [if_pos two, name]
    refine (characters_two rest (by omega) (by omega)).trans ?_
    rw [first, low_of last, number, same]
  rw [if_neg two]
  by_cases three : v ≤ 65535
  · obtain ⟨a, name, first⟩ := exists_byte (n := v / 4096 % 16 + 224) (by omega)
    have number : ((v / 4096 % 16 + 224 - 0xe0) * 64 + v / 64 % 64) * 64
        + v % 64 = v := by omega
    rw [if_pos three, name]
    refine (characters_three rest (by omega) (by omega) (by omega) (by omega) (by omega)).trans ?_
    rw [first, low_of third, low_of last, number, same]
  · obtain ⟨a, name, first⟩ := exists_byte (n := v / 262144 % 8 + 240) (by omega)
    have number : (((v / 262144 % 8 + 240 - 0xf0) * 64 + v / 4096 % 64) * 64
        + v / 64 % 64) * 64 + v % 64 = v := by omega
    rw [if_neg three, name]
    refine (characters_four rest (by omega) (by omega) (by omega) (by omega) (by omega)
      (by omega)).trans ?_
    rw [first, low_of second, low_of third, low_of last, number, same]

/-- A byte below 128 is the whole encoding of the character that it occurs in. -/
theorem utf8EncodeChar_of_mem {c : Char} {b : UInt8} (small : b.toNat < 0x80)
    (member : b ∈ utf8EncodeChar c) : utf8EncodeChar c = [b] := by
  rw [utf8EncodeChar_eq] at member ⊢
  have large {n : Nat} (least : 128 ≤ n) (most : n < 256) (same : b = UInt8.ofNat n) : False := by
    obtain ⟨_, rfl, number⟩ := exists_byte most
    rw [← same] at number
    omega
  by_cases one : c.toNat ≤ 127
  · rw [if_pos one, List.mem_singleton] at member
    rw [if_pos one, member]
  rw [if_neg one] at member
  by_cases two : c.toNat ≤ 2047
  · rw [if_pos two] at member
    simp only [List.mem_cons, List.not_mem_nil, or_false] at member
    rcases member with same | same <;> exact (large (by omega) (by omega) same).elim
  rw [if_neg two] at member
  by_cases three : c.toNat ≤ 65535
  · rw [if_pos three] at member
    simp only [List.mem_cons, List.not_mem_nil, or_false] at member
    rcases member with same | same | same <;> exact (large (by omega) (by omega) same).elim
  · rw [if_neg three] at member
    simp only [List.mem_cons, List.not_mem_nil, or_false] at member
    rcases member with same | same | same | same <;>
      exact (large (by omega) (by omega) same).elim

/-! ## Texts -/

theorem characters_flatMap (cs : List Char) :
    characters (cs.flatMap utf8EncodeChar) = cs.map some := by
  induction cs with
  | nil => rfl
  | cons c rest ih => rw [List.flatMap_cons, characters_utf8EncodeChar, ih, List.map_cons]

theorem decodeLossy_encode (s : String) : decodeLossy (encode s) = s := by
  simp [decodeLossy, encode, characters_flatMap, Function.comp_def]

theorem decode?_encode (s : String) : decode? (encode s) = some s := by
  have spelled : characters (encode s) = s.toList.map some := characters_flatMap s.toList
  have all (cs : List Char) : (cs.map some).mapM id = some cs := by
    induction cs with
    | nil => rfl
    | cons c rest ih => simp [List.mapM_cons, ih]
  rw [decode?, spelled, all, Option.map_some, String.ofList_toList]

theorem encode_append (s t : String) : encode (s ++ t) = encode s ++ encode t := by
  simp [encode]

/-- The encoding is the row of bytes that the text is kept as. -/
theorem encode_eq_data (s : String) : encode s = s.toByteArray.data.toList := by
  have bytes : s.toByteArray = s.toList.utf8Encode := s.utf8Encode_toList.symm
  rw [bytes, List.utf8Encode, List.data_toByteArray, List.toList_toArray, encode]

/-- A character that is one byte is not in a text whose bytes leave that byte out. -/
theorem not_mem_of_bytes {s : String} {c : Char} {b : UInt8} (single : utf8EncodeChar c = [b])
    (absent : b ∉ s.toByteArray.data.toList) : c ∉ s.toList := by
  rw [← encode_eq_data] at absent
  refine fun member => absent (List.mem_flatMap.mpr ⟨c, member, ?_⟩)
  rw [single]
  exact List.mem_singleton.mpr rfl

theorem encode_inj {s t : String} (same : encode s = encode t) : s = t := by
  rw [← decodeLossy_encode s, same, decodeLossy_encode]

/-- The byte of a character that is one byte occurs only in texts that have the character. -/
theorem mem_of_mem_encode {s : String} {c : Char} {b : UInt8} (small : b.toNat < 0x80)
    (single : utf8EncodeChar c = [b]) (member : b ∈ encode s) : c ∈ s.toList := by
  obtain ⟨other, among, within⟩ := List.mem_flatMap.mp member
  have alone := utf8EncodeChar_of_mem small within
  have same := congrArg characters (alone.trans single.symm)
  have first := characters_flatMap [c]
  have second := characters_flatMap [other]
  simp only [List.flatMap_cons, List.flatMap_nil, List.append_nil] at first second
  rw [first, second] at same
  simp only [List.map_cons, List.map_nil, List.cons.injEq, Option.some.injEq, and_true] at same
  exact same ▸ among

/-- What stands before a byte below 128 is an encoded text. -/
theorem exists_encode_of_split {s : String} {before after : Bytes} {b : UInt8}
    (small : b.toNat < 0x80) (split : encode s = before ++ b :: after) :
    ∃ t, before = encode t := by
  change s.toList.flatMap utf8EncodeChar = _ at split
  generalize s.toList = cs at split
  induction cs generalizing before with
  | nil => simp at split
  | cons c rest ih =>
      rw [List.flatMap_cons, List.append_eq_append_iff] at split
      rcases split with ⟨later, rfl, others⟩ | ⟨within, same, others⟩
      · obtain ⟨t, rfl⟩ := ih others
        exact ⟨ofList (c :: t.toList), by simp [encode]⟩
      · cases within with
        | nil =>
            exact ⟨ofList [c], by simpa [encode] using same.symm⟩
        | cons b' within =>
            obtain ⟨rfl, -⟩ := List.cons.inj others
            have single := utf8EncodeChar_of_mem small (c := c) (by simp [same])
            rw [single] at same
            obtain ⟨rfl, -⟩ | ⟨-, more⟩ := List.singleton_eq_append_iff.mp same
            · exact ⟨"", rfl⟩
            · exact absurd more (List.cons_ne_nil _ _)

/-! ## Bytes before a text -/

/-- These bytes do not go on with a character that stands before them. -/
def Fresh (bytes : Bytes) : Prop :=
  ∀ b ∈ bytes.head?, isContinuation b = false

theorem characters_append (bytes : Bytes) {later : Bytes} (fresh : Fresh later) :
    characters (bytes ++ later) = characters bytes ++ characters later := by
  fun_induction characters bytes with
  | case1 => rfl
  | case4 a | case7 a | case11 a | case12 a =>
      -- What breaks off at the end of the bytes is ill-formed with the later ones as well.
      rw [characters.eq_def (_ ++ later)]
      cases later with
      | nil => simp only [List.append_nil, characters, Bool.false_eq_true, if_false, if_true, *]
      | cons b rest =>
          have stops : isContinuation b = false := fresh b rfl
          have third : isSecondOfThree a b = false := by simp [isSecondOfThree, stops]
          have fourth : isSecondOfFour a b = false := by simp [isSecondOfFour, stops]
          simp only [List.cons_append, List.nil_append, Bool.false_eq_true, if_false, if_true,
            ite_self, *]
  | _ =>
      rw [characters.eq_def (_ ++ later)]
      simp only [List.cons_append] at *
      simp only [Bool.false_eq_true, if_false, if_true, *]

theorem isContinuation_ofNat {n : Nat} (h : n < 128 ∨ 192 ≤ n ∧ n < 256) :
    isContinuation (UInt8.ofNat n) = false := by
  obtain ⟨b, name, number⟩ := exists_byte (n := n) (by omega)
  rw [name]
  simp only [isContinuation, UInt8.le_iff_toNat_le, number, UInt8.reduceToNat,
    Bool.and_eq_false_iff, decide_eq_false_iff_not]
  omega

theorem utf8EncodeChar_eq_cons (c : Char) :
    ∃ n more, utf8EncodeChar c = UInt8.ofNat n :: more ∧ (n < 128 ∨ 192 ≤ n ∧ n < 256) := by
  have valid : c.toNat < 55296 ∨ 57343 < c.toNat ∧ c.toNat < 1114112 := c.valid
  rw [utf8EncodeChar_eq]
  repeat' split
  all_goals exact ⟨_, _, rfl, by omega⟩

theorem fresh_encode (s : String) : Fresh (encode s) := by
  unfold Fresh encode
  intro b first
  cases letters : s.toList with
  | nil => simp [letters] at first
  | cons c rest =>
      obtain ⟨n, more, same, starts⟩ := utf8EncodeChar_eq_cons c
      rw [letters, List.flatMap_cons, same] at first
      obtain rfl := Option.some.inj first
      exact isContinuation_ofNat starts

theorem isSome_decode? (bytes : Bytes) :
    (decode? bytes).isSome = (characters bytes).all (·.isSome) := by
  rw [decode?, Option.isSome_map]
  induction characters bytes with
  | nil => rfl
  | cons c rest ih =>
      cases c with
      | none => rfl
      | some c =>
          rw [List.mapM_cons, List.all_cons, ← ih]
          cases rest.mapM id <;> rfl

/-- A text at the end does not change whether the bytes are a text. -/
theorem isSome_decode?_append_encode (bytes : Bytes) (s : String) :
    (decode? (bytes ++ encode s)).isSome = (decode? bytes).isSome := by
  have text : characters (encode s) = s.toList.map some := characters_flatMap s.toList
  rw [isSome_decode?, isSome_decode?, characters_append bytes (fresh_encode s), text,
    List.all_append]
  simp

end RemoteDesk.Utf8
