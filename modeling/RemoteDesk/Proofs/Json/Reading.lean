import RemoteDesk.Proofs.Json.Doubles

/-! # Reading what is printed

Every printed value is a JSON text, of the structure that the value has: `source v`. It is read
without looking at what comes after it, so values can be printed behind each other.
-/

namespace RemoteDesk.Json

open Source

/-- What holds of an array if it holds of its items, and of an object if it holds of the values in
    it, holds of every value that is built from values of which it holds. -/
@[elab_as_elim]
theorem inductionOn {P : Json → Prop} (null : P .null) (bool : ∀ b, P (.bool b))
    (number : ∀ n, P (.number n)) (string : ∀ s, P (.string s))
    (array : ∀ items, (∀ item ∈ items, P item) → P (.array items))
    (object : ∀ fields, (∀ field ∈ fields, P field.2) → P (.object fields)) (v : Json) : P v := by
  cases v with
  | null => exact null
  | bool b => exact bool b
  | number n => exact number n
  | string s => exact string s
  | array items =>
      exact array items fun item _ => inductionOn null bool number string array object item
  | object fields =>
      exact object fields fun field _ => inductionOn null bool number string array object field.2
termination_by sizeOf v
decreasing_by
  · have smaller := List.sizeOf_lt_of_mem ‹item ∈ items›
    rw [Json.array.sizeOf_spec]
    omega
  · have smaller := List.sizeOf_lt_of_mem ‹field ∈ fields›
    have inside : sizeOf field = 1 + sizeOf field.1 + sizeOf field.2 := rfl
    rw [Json.object.sizeOf_spec]
    omega

/-! ## The structure of a printed value -/

mutual

/-- The structure of the text that a value is printed as. -/
def source : Json → Source
  | .null => .null
  | .bool b => .bool b
  | .number n => .number (numeral n)
  | .string s => .string (letters s)
  | .array items => .array (sources items)
  | .object fields => .object (fieldSources fields)

def sources : List Json → List Source
  | [] => []
  | item :: rest => source item :: sources rest

def fieldSources : List (String × Json) → List (List Letter × Source)
  | [] => []
  | (name, value) :: rest => (letters name, source value) :: fieldSources rest

end

/-! ## Beginnings -/

/-- No value, and no text that may stand before one, begins in this way. -/
def Begins (cs : List Char) : Prop :=
  ∃ c rest, cs = c :: rest ∧ isSpace c = false ∧ c ≠ ']'

theorem Begins.append {cs : List Char} (h : Begins cs) (rest : List Char) :
    Begins (cs ++ rest) := by
  obtain ⟨c, others, rfl, plain, bracket⟩ := h
  exact ⟨c, others ++ rest, rfl, plain, bracket⟩

theorem Begins.skipSpace {cs : List Char} (h : Begins cs) : skipSpace cs = cs := by
  obtain ⟨c, rest, rfl, plain, -⟩ := h
  simp [Source.skipSpace, plain]

theorem skipSpace_cons {c : Char} (h : isSpace c = false) (rest : List Char) :
    skipSpace (c :: rest) = c :: rest := by
  simp [skipSpace, h]

/-- A numeral begins with its sign or with a digit. -/
theorem Numeral.Proper.begins_text {n : Numeral} (h : n.Proper) :
    (n.negative = true ∧ n.text = '-' :: n.magnitude) ∨
    (n.negative = false ∧ n.text = n.magnitude ∧
      ∃ d rest, d < 10 ∧ n.magnitude = d.digitChar :: rest) := by
  cases minus : n.negative with
  | true => exact .inl ⟨rfl, by simp [Numeral.text, signText, minus]⟩
  | false =>
      refine .inr ⟨rfl, by simp [Numeral.text, signText, minus], ?_⟩
      cases whole : n.whole with
      | nil => exact (h.begins whole).elim
      | cons d ds =>
          refine ⟨d, digitChars ds ++ (n.fractionText ++ n.powerText), ?_, ?_⟩
          · exact h.whole d (by simp [whole])
          · simp [Numeral.magnitude, whole, digitChars]

/-- A digit is none of the characters that other tokens begin with. -/
theorem digitChar_ne {d : Nat} (h : d < 10) :
    isSpace d.digitChar = false ∧ isDigit d.digitChar = true ∧ d.digitChar ≠ ']' ∧
      d.digitChar ≠ 'n' ∧ d.digitChar ≠ 't' ∧ d.digitChar ≠ 'f' ∧ d.digitChar ≠ '"' ∧
      d.digitChar ≠ '-' := by
  have all : ∀ d < 10, isSpace d.digitChar = false ∧ isDigit d.digitChar = true ∧
      d.digitChar ≠ ']' ∧ d.digitChar ≠ 'n' ∧ d.digitChar ≠ 't' ∧ d.digitChar ≠ 'f' ∧
      d.digitChar ≠ '"' ∧ d.digitChar ≠ '-' := by decide
  exact all d h

theorem begins_print (v : Json) : Begins v.print := by
  cases v with
  | null => exact ⟨'n', ['u', 'l', 'l'], by simp [print], by decide, by decide⟩
  | bool b =>
      cases b with
      | true => exact ⟨'t', ['r', 'u', 'e'], by simp [print], by decide, by decide⟩
      | false => exact ⟨'f', ['a', 'l', 's', 'e'], by simp [print], by decide, by decide⟩
  | number n =>
      rw [print, print_number]
      rcases (numeral_proper n).begins_text with ⟨-, text⟩ | ⟨-, text, d, rest, digit, begins⟩
      · exact ⟨'-', _, text, by decide, by decide⟩
      · obtain ⟨plain, -, bracket, -⟩ := digitChar_ne digit
        exact ⟨d.digitChar, rest, text.trans begins, plain, bracket⟩
  | string s =>
      exact ⟨'"', s.toList.flatMap escapeChar ++ ['"'], by simp [print, printString], by decide,
        by decide⟩
  | array items => exact ⟨'[', printItems items ++ [']'], by simp [print], by decide, by decide⟩
  | object fields =>
      exact ⟨'\x7b', printFields fields ++ ['\x7d'], by simp [print], by decide, by decide⟩

theorem stops_cons {c : Char} (other : isDigit c = false ∧ c ≠ '.' ∧ c ≠ 'e' ∧ c ≠ 'E')
    (rest : List Char) : Stops (c :: rest) := by
  intro d first
  obtain rfl : c = d := Option.some.inj first
  exact other

theorem begins_printItems {items : List Json} (nonempty : items ≠ []) :
    Begins (printItems items) := by
  match items with
  | [] => exact (nonempty rfl).elim
  | [item] =>
      rw [printItems]
      exact begins_print item
  | item :: next :: rest =>
      rw [printItems]
      exact (begins_print item).append _

theorem begins_printFields {fields : List (String × Json)} (nonempty : fields ≠ []) :
    ∃ rest, printFields fields = '"' :: rest := by
  match fields with
  | [] => exact (nonempty rfl).elim
  | [(name, value)] => exact ⟨_, by rw [printFields, printString]; rfl⟩
  | (name, value) :: next :: rest => exact ⟨_, by rw [printFields, printString]; rfl⟩

theorem printFields_ne_nil {fields : List (String × Json)} (nonempty : fields ≠ []) :
    printFields fields ≠ [] := by
  obtain ⟨rest, begins⟩ := begins_printFields nonempty
  simp [begins]

/-! ## Reading -/

section Tokens

variable (fuel : Nat) {rest after : List Char}

theorem read_numeral {n : Numeral} (h : n.Proper) (stops : Stops rest) :
    Source.read (fuel + 1) (n.text ++ rest) = some (.number n, rest) := by
  have whole := readNumeral_magnitude h stops
  rcases h.begins_text with ⟨minus, text⟩ | ⟨plus, text, d, others, digit, begins⟩
  · rw [minus] at whole
    rw [text, Source.read]
    simp [skipSpace_cons (c := '-') (by decide), whole]
  · obtain ⟨plain, isDigit, -, n, t, f, quote, minus⟩ := digitChar_ne digit
    rw [plus, begins] at whole
    rw [text, begins, Source.read, List.cons_append, skipSpace_cons plain]
    rw [List.cons_append] at whole
    simp [n, t, f, quote, minus, isDigit, whole]

theorem read_string (s : String) :
    Source.read (fuel + 1) (printString s ++ rest) = some (.string (letters s), rest) := by
  have whole := readLetters_printed s rest
  rw [printString, Source.read]
  simp [skipSpace_cons (c := '"') (by decide), whole]

theorem read_array {inside : List Char} (begins : Begins inside) {items : List Source}
    (h : readItems fuel inside = some (items, after)) :
    Source.read (fuel + 1) ('[' :: inside) = some (.array items, after) := by
  have skipped := begins.skipSpace
  obtain ⟨c, others, rfl, -, open'⟩ := begins
  rw [Source.read, skipSpace_cons (by decide)]
  simp [skipped, open', h, isDigit]

theorem read_object {inside : List Char} {fields : List (List Letter × Source)}
    (h : readFields fuel ('"' :: inside) = some (fields, after)) :
    Source.read (fuel + 1) ('\x7b' :: '"' :: inside) = some (.object fields, after) := by
  rw [Source.read, skipSpace_cons (by decide)]
  simp [skipSpace_cons (c := '"') (by decide), h, isDigit]

variable {item value : Source} {items : List Source} {fields : List (List Letter × Source)}
  {cs : List Char}

theorem readItems_last (h : Source.read fuel cs = some (item, ']' :: after)) :
    readItems (fuel + 1) cs = some ([item], after) := by
  simp [readItems, h, skipSpace_cons (c := ']') (by decide)]

theorem readItems_more (h : Source.read fuel cs = some (item, ',' :: rest))
    (others : readItems fuel rest = some (items, after)) :
    readItems (fuel + 1) cs = some (item :: items, after) := by
  simp [readItems, h, skipSpace_cons (c := ',') (by decide), others]

theorem readFields_last (name : String)
    (h : Source.read fuel cs = some (value, '\x7d' :: after)) :
    readFields (fuel + 1) (printString name ++ ':' :: cs) =
      some ([(letters name, value)], after) := by
  have whole := readLetters_printed name (':' :: cs)
  rw [printString, readFields]
  simp [skipSpace_cons (c := '"') (by decide), skipSpace_cons (c := ':') (by decide),
    skipSpace_cons (c := '\x7d') (by decide), whole, h]

theorem readFields_more (name : String) (h : Source.read fuel cs = some (value, ',' :: rest))
    (others : readFields fuel rest = some (fields, after)) :
    readFields (fuel + 1) (printString name ++ ':' :: cs) =
      some ((letters name, value) :: fields, after) := by
  have whole := readLetters_printed name (':' :: cs)
  rw [printString, readFields]
  simp [skipSpace_cons (c := '"') (by decide), skipSpace_cons (c := ':') (by decide),
    skipSpace_cons (c := ',') (by decide), whole, h, others]

end Tokens

/-- Where something is to be read there is fuel for its first step. -/
theorem fuel_succ {cs : List Char} {fuel : Nat} (begins : cs ≠ [])
    (enough : 2 * cs.length ≤ fuel + 1) : ∃ n, fuel = n + 1 := by
  have long := List.length_pos_iff.mpr begins
  exact ⟨fuel - 1, by omega⟩

theorem Begins.ne_nil {cs : List Char} (h : Begins cs) : cs ≠ [] := by
  obtain ⟨c, rest, rfl, -⟩ := h
  exact List.cons_ne_nil c rest

/-- A printed value is read as one, and what stands behind it is left. -/
def Reads (v : Json) : Prop :=
  ∀ fuel rest, 2 * v.print.length ≤ fuel + 1 → Stops rest →
    Source.read fuel (v.print ++ rest) = some (source v, rest)

theorem readItems_print {items : List Json} (nonempty : items ≠ [])
    (each : ∀ item ∈ items, Reads item) (fuel : Nat) (rest : List Char)
    (enough : 2 * (printItems items).length ≤ fuel) :
    readItems fuel (printItems items ++ ']' :: rest) = some (sources items, rest) := by
  induction items generalizing fuel with
  | nil => exact (nonempty rfl).elim
  | cons item others ih =>
      obtain ⟨fuel, rfl⟩ := fuel_succ (begins_printItems nonempty).ne_nil (Nat.le_succ_of_le enough)
      have reads := each item (List.mem_cons_self ..)
      cases others with
      | nil =>
          rw [printItems] at enough ⊢
          exact readItems_last fuel (reads fuel _ enough (stops_cons (by decide) _))
      | cons next others =>
          rw [printItems] at enough ⊢
          simp only [List.length_append, List.length_cons] at enough
          have first := reads fuel (',' :: (printItems (next :: others) ++ ']' :: rest)) (by omega)
            (stops_cons (by decide) _)
          have second := ih (List.cons_ne_nil next others)
            (fun item member => each item (List.mem_cons_of_mem _ member)) fuel (by omega)
          rw [List.append_assoc]
          exact readItems_more fuel first second

theorem readFields_print {fields : List (String × Json)} (nonempty : fields ≠ [])
    (each : ∀ field ∈ fields, Reads field.2) (fuel : Nat) (rest : List Char)
    (enough : 2 * (printFields fields).length ≤ fuel) :
    readFields fuel (printFields fields ++ '\x7d' :: rest) = some (fieldSources fields, rest) := by
  induction fields generalizing fuel with
  | nil => exact (nonempty rfl).elim
  | cons field others ih =>
      obtain ⟨fuel, rfl⟩ := fuel_succ (printFields_ne_nil nonempty) (Nat.le_succ_of_le enough)
      have reads := each field (List.mem_cons_self ..)
      obtain ⟨name, value⟩ := field
      cases others with
      | nil =>
          rw [printFields] at enough ⊢
          simp only [List.length_append, List.length_cons] at enough
          have first := reads fuel ('\x7d' :: rest) (by simp only; omega) (stops_cons (by decide) _)
          rw [List.append_assoc]
          exact readFields_last fuel name first
      | cons next others =>
          rw [printFields] at enough ⊢
          simp only [List.length_append, List.length_cons] at enough
          have first := reads fuel (',' :: (printFields (next :: others) ++ '\x7d' :: rest))
            (by simp only; omega) (stops_cons (by decide) _)
          have second := ih (List.cons_ne_nil next others)
            (fun field member => each field (List.mem_cons_of_mem _ member)) fuel (by omega)
          simp only [List.append_assoc, List.cons_append]
          exact readFields_more fuel name first second

/-- To read a value takes a first step. -/
theorem Reads.step {v : Json}
    (h : ∀ fuel rest, 2 * v.print.length ≤ fuel + 2 → Stops rest →
      Source.read (fuel + 1) (v.print ++ rest) = some (source v, rest)) : Reads v := by
  intro fuel rest enough stops
  obtain ⟨fuel, rfl⟩ := fuel_succ (begins_print v).ne_nil enough
  exact h fuel rest enough stops

theorem read_print (v : Json) : Reads v := by
  induction v using inductionOn with
  | null =>
      apply Reads.step
      intro fuel rest _ _
      simp [print, Source.read, source, skipSpace, isSpace, expect]
  | bool b =>
      apply Reads.step
      intro fuel rest _ _
      cases b <;> simp [print, Source.read, source, skipSpace, isSpace, expect]
  | number n =>
      apply Reads.step
      intro fuel rest _ stops
      rw [print, print_number, source]
      exact read_numeral fuel (numeral_proper n) stops
  | string s =>
      apply Reads.step
      intro fuel rest _ _
      rw [print, source]
      exact read_string fuel s
  | array items ih =>
      apply Reads.step
      intro fuel rest enough _
      cases items with
      | nil => simp [print, printItems, Source.read, source, sources, skipSpace, isSpace, isDigit]
      | cons item items =>
          have nonempty := List.cons_ne_nil item items
          simp only [print, List.length_cons, List.length_append, List.length_nil] at enough
          have inside := readItems_print nonempty ih fuel rest (by omega)
          rw [print, source, List.cons_append, List.cons_append, List.append_assoc]
          exact read_array fuel ((begins_printItems nonempty).append _) inside
  | object fields ih =>
      apply Reads.step
      intro fuel rest enough _
      cases fields with
      | nil =>
          simp [print, printFields, Source.read, source, fieldSources, skipSpace, isSpace, isDigit]
      | cons field fields =>
          have nonempty := List.cons_ne_nil field fields
          simp only [print, List.length_cons, List.length_append, List.length_nil] at enough
          have inside := readFields_print nonempty ih fuel rest (by omega)
          obtain ⟨others, begins⟩ := begins_printFields nonempty
          rw [print, source, List.cons_append, List.cons_append, List.append_assoc]
          rw [begins] at inside ⊢
          exact read_object fuel inside

/-- A printed value is a JSON text. -/
theorem parse_print (v : Json) : Source.parse (String.ofList v.print) = some (source v) := by
  have whole := read_print v (2 * v.print.length + 1) [] (by omega) (fun _ first => by cases first)
  rw [List.append_nil] at whole
  simp [Source.parse, whole, skipSpace]

end RemoteDesk.Json
