import RemoteDesk.Proofs.Json.Reading

/-! # Values of JSON texts

A value that was read is nested no deeper than allowed, its whole numbers have at most 64 bits, and
each object lists its fields by name, each name once: the value `Fits`. If it has no doubles, the
value of what is printed for it is the value again.
-/

namespace RemoteDesk.Json

/-! ## Fields -/

/-- Fields are in the order of their names, and each name is there once. -/
def Sorted (fields : List (String × Json)) : Prop :=
  fields.Pairwise fun a b => a.1 < b.1

section Fields

variable {name : String} {value : Json} {fields : List (String × Json)}

theorem mem_insertField {field : String × Json} (h : field ∈ insertField name value fields) :
    field = (name, value) ∨ field ∈ fields := by
  induction fields with
  | nil => exact .inl (List.mem_singleton.mp h)
  | cons first rest ih =>
      obtain ⟨other, old⟩ := first
      unfold insertField at h
      split at h
      · rcases List.mem_cons.mp h with new | kept
        · exact .inl new
        · exact .inr (List.mem_cons_of_mem _ kept)
      · split at h
        · exact List.mem_cons.mp h
        · rcases List.mem_cons.mp h with first | later
          · exact .inr (first ▸ List.mem_cons_self ..)
          · exact (ih later).imp_right (List.mem_cons_of_mem _)

theorem Sorted.insertField (h : Sorted fields) : Sorted (insertField name value fields) := by
  induction fields with
  | nil => exact List.pairwise_singleton _ _
  | cons first rest ih =>
      obtain ⟨other, old⟩ := first
      obtain ⟨least, sorted⟩ := List.pairwise_cons.mp h
      unfold Json.insertField
      split
      · next same =>
          subst same
          exact List.pairwise_cons.mpr ⟨least, sorted⟩
      · next different =>
          split
          · next before =>
              refine List.pairwise_cons.mpr ⟨?_, h⟩
              intro field member
              rcases List.mem_cons.mp member with rfl | later
              · exact before
              · exact String.lt_trans before (least field later)
          · next behind =>
              refine List.pairwise_cons.mpr ⟨?_, ih sorted⟩
              intro field member
              rcases mem_insertField member with rfl | later
              · grind
              · exact least field later

/-- A field whose name comes after all others becomes the last. -/
theorem insertField_last (h : ∀ field ∈ fields, field.1 < name) :
    insertField name value fields = fields ++ [(name, value)] := by
  induction fields with
  | nil => rfl
  | cons first rest ih =>
      obtain ⟨other, old⟩ := first
      have less : other < name := h _ (List.mem_cons_self ..)
      have different : other ≠ name := fun same => String.lt_irrefl name (same ▸ less)
      unfold insertField
      rw [if_neg different, if_neg (String.lt_asymm less), List.cons_append,
        ih fun field member => h field (List.mem_cons_of_mem _ member)]

end Fields

/-- Puts a field among sorted ones. -/
def place (sorted : List (String × Json)) (field : String × Json) : List (String × Json) :=
  insertField field.1 field.2 sorted

theorem ofFields_eq (fields : List (String × Json)) :
    ofFields fields = .object (fields.foldl place []) := by
  rfl

theorem foldl_place_of_sorted {before after : List (String × Json)}
    (h : Sorted (before ++ after)) : after.foldl place before = before ++ after := by
  induction after generalizing before with
  | nil => simp
  | cons field after ih =>
      have last : ∀ earlier ∈ before, earlier.1 < field.1 := by
        intro earlier member
        exact (List.pairwise_append.mp h).2.2 earlier member field (List.mem_cons_self ..)
      rw [List.foldl_cons, place, insertField_last last, ih (by simpa using h)]
      simp

theorem sorted_foldl_place {before : List (String × Json)} (h : Sorted before)
    (after : List (String × Json)) : Sorted (after.foldl place before) := by
  induction after generalizing before with
  | nil => exact h
  | cons field after ih => exact ih h.insertField

theorem mem_foldl_place {field : String × Json} {before after : List (String × Json)}
    (h : field ∈ after.foldl place before) : field ∈ before ∨ field ∈ after := by
  induction after generalizing before with
  | nil => exact .inl h
  | cons next after ih =>
      rcases ih h with placed | later
      · rcases mem_insertField placed with rfl | earlier
        · exact .inr (List.mem_cons_self ..)
        · exact .inl earlier
      · exact .inr (List.mem_cons_of_mem _ later)

/-- Fields that are sorted are kept as they are. -/
theorem ofFields_of_sorted {fields : List (String × Json)} (h : Sorted fields) :
    ofFields fields = .object fields := by
  rw [ofFields_eq, foldl_place_of_sorted (by simpa using h), List.nil_append]

/-! ## Values that can be read -/

/-- A value that is nested less than `depth` deep, is sorted and has no number beyond 64 bits. -/
inductive Fits : Nat → Json → Prop where
  | null {depth} : Fits depth .null
  | bool {depth} (b : Bool) : Fits depth (.bool b)
  | number {depth} {n : Number} : n.InRange → Fits depth (.number n)
  | string {depth} (s : String) : Fits depth (.string s)
  | array {depth} {items : List Json} : (∀ item ∈ items, Fits depth item) → 0 < depth →
      Fits (depth + 1) (.array items)
  | object {depth} {fields : List (String × Json)} : Sorted fields →
      (∀ field ∈ fields, Fits depth field.2) → 0 < depth → Fits (depth + 1) (.object fields)

mutual

/-- There is no double in the value. -/
def isWhole : Json → Bool
  | .null | .bool _ | .number (.whole _) | .string _ => true
  | .number (.double _) => false
  | .array items => areWhole items
  | .object fields => haveWhole fields

def areWhole : List Json → Bool
  | [] => true
  | item :: rest => item.isWhole && areWhole rest

def haveWhole : List (String × Json) → Bool
  | [] => true
  | (_, value) :: rest => value.isWhole && haveWhole rest

end

theorem isWhole_array {items : List Json} :
    (array items).isWhole ↔ ∀ item ∈ items, item.isWhole := by
  rw [isWhole]
  induction items with
  | nil => simp [areWhole]
  | cons item rest ih => simp [areWhole, ih]

theorem isWhole_object {fields : List (String × Json)} :
    (object fields).isWhole ↔ ∀ field ∈ fields, field.2.isWhole := by
  rw [isWhole]
  induction fields with
  | nil => simp [haveWhole]
  | cons field rest ih => simp [haveWhole, ih]

theorem Fits.ofFields {depth : Nat} {fields : List (String × Json)}
    (each : ∀ field ∈ fields, Fits depth field.2) (deep : 0 < depth) :
    Fits (depth + 1) (ofFields fields) := by
  refine .object (sorted_foldl_place List.Pairwise.nil fields) ?_ deep
  intro field member
  rcases mem_foldl_place member with earlier | given
  · cases earlier
  · exact each field given

theorem isWhole_ofFields {fields : List (String × Json)}
    (each : ∀ field ∈ fields, field.2.isWhole) : (ofFields fields).isWhole := by
  apply isWhole_object.mpr
  intro field member
  rcases mem_foldl_place member with earlier | given
  · cases earlier
  · exact each field given

theorem Fits.ofStrings {depth : Nat} (texts : List String) (deep : 0 < depth) :
    Fits (depth + 1) (ofStrings texts) := by
  refine .array ?_ deep
  intro item member
  obtain ⟨text, -, rfl⟩ := List.mem_map.mp member
  exact .string text

theorem isWhole_ofStrings (texts : List String) : (ofStrings texts).isWhole := by
  apply isWhole_array.mpr
  intro item member
  obtain ⟨text, -, rfl⟩ := List.mem_map.mp member
  rfl

section Lists

variable {depth : Nat}

theorem mem_values {items : List Source} {values : List Json}
    (h : Source.values depth items = some values) :
    ∀ v ∈ values, ∃ s, Source.value depth s = some v := by
  induction items generalizing values with
  | nil =>
      obtain rfl : [] = values := by simpa [Source.values] using h
      simp
  | cons s rest ih =>
      simp only [Source.values, bind, Option.bind_eq_some_iff, pure, Option.some.injEq] at h
      obtain ⟨first, read, others, reads, rfl⟩ := h
      intro v member
      rcases List.mem_cons.mp member with rfl | later
      · exact ⟨s, read⟩
      · exact ih reads v later

theorem mem_fieldValues {fields : List (List Letter × Source)} {values : List (String × Json)}
    (h : Source.fieldValues depth fields = some values) :
    ∀ field ∈ values, ∃ s, Source.value depth s = some field.2 := by
  induction fields generalizing values with
  | nil =>
      obtain rfl : [] = values := by simpa [Source.fieldValues] using h
      simp
  | cons field rest ih =>
      obtain ⟨name, s⟩ := field
      simp only [Source.fieldValues, bind, Option.bind_eq_some_iff, pure, Option.some.injEq] at h
      obtain ⟨name, -, first, read, others, reads, rfl⟩ := h
      intro v member
      rcases List.mem_cons.mp member with rfl | later
      · exact ⟨s, read⟩
      · exact ih reads v later

end Lists

/-- What is read fits the depth it is read with. -/
theorem fits_of_value {depth : Nat} {s : Source} {v : Json} (h : Source.value depth s = some v) :
    Fits depth v := by
  induction depth using Nat.strongRecOn generalizing s v with
  | ind depth ih =>
      cases s with
      | null =>
          obtain rfl : .null = v := by simpa [Source.value] using h
          exact .null
      | bool b =>
          obtain rfl : .bool b = v := by simpa [Source.value] using h
          exact .bool b
      | number n =>
          obtain ⟨x, value, rfl⟩ : ∃ x, Source.Numeral.value n = some x ∧ .number x = v := by
            simpa [Source.value] using h
          exact .number (inRange_of_value value)
      | string letters =>
          obtain ⟨text, -, rfl⟩ : ∃ text, Source.text? letters = some text ∧ .string text = v := by
            simpa [Source.value] using h
          exact .string text
      | array items =>
          rw [Source.value] at h
          split at h
          · cases h
          · next deep =>
              obtain ⟨values, read, rfl⟩ := Option.map_eq_some_iff.mp h
              obtain ⟨inner, rfl⟩ : ∃ inner, depth = inner + 1 := ⟨depth - 1, by omega⟩
              refine .array ?_ (by omega)
              intro item member
              obtain ⟨s, value⟩ := mem_values read item member
              exact ih inner (Nat.lt_succ_self inner) value
      | object fields =>
          rw [Source.value] at h
          split at h
          · cases h
          · next deep =>
              obtain ⟨values, read, rfl⟩ := Option.map_eq_some_iff.mp h
              obtain ⟨inner, rfl⟩ : ∃ inner, depth = inner + 1 := ⟨depth - 1, by omega⟩
              refine .ofFields ?_ (by omega)
              intro field member
              obtain ⟨s, value⟩ := mem_fieldValues read field member
              exact ih inner (Nat.lt_succ_self inner) value

/-! ## Reading back -/

theorem values_sources {depth : Nat} {items : List Json}
    (each : ∀ item ∈ items, Source.value depth (source item) = some item) :
    Source.values depth (sources items) = some items := by
  induction items with
  | nil => rfl
  | cons item rest ih =>
      have first := each item (List.mem_cons_self ..)
      have others := ih fun item member => each item (List.mem_cons_of_mem _ member)
      simp [sources, Source.values, first, others]

theorem fieldValues_fieldSources {depth : Nat} {fields : List (String × Json)}
    (each : ∀ field ∈ fields, Source.value depth (source field.2) = some field.2) :
    Source.fieldValues depth (fieldSources fields) = some fields := by
  induction fields with
  | nil => rfl
  | cons field rest ih =>
      have first := each field (List.mem_cons_self ..)
      have others := ih fun field member => each field (List.mem_cons_of_mem _ member)
      simp [fieldSources, Source.fieldValues, text?_letters, first, others]

/-- A value without doubles has the value that it is printed for. -/
theorem value_source {depth : Nat} {v : Json} (fits : Fits depth v) (whole : v.isWhole) :
    Source.value depth (source v) = some v := by
  induction fits with
  | null => simp [source, Source.value]
  | bool b => simp [source, Source.value]
  | @number depth n range =>
      cases n with
      | whole n => simp [source, Source.value, numeral, value_wholeNumeral range]
      | double x => cases whole
  | string s => simp [source, Source.value, text?_letters]
  | array _ deep ih =>
      have each := isWhole_array.mp whole
      have items := values_sources fun item member => ih item member (each item member)
      simp [source, Source.value, items, Nat.ne_of_gt deep]
  | object sorted _ deep ih =>
      have each := isWhole_object.mp whole
      have fields := fieldValues_fieldSources fun field member =>
        ih field member (each field member)
      simp [source, Source.value, fields, ofFields_of_sorted sorted, Nat.ne_of_gt deep]

/-! ## One line -/

theorem clean_numeral {n : Numeral} (h : n.Proper) : Clean n.text := by
  have sign (negative : Bool) : Clean (signText negative) := by
    cases negative <;> simp [signText, Clean]
  have digits {ds : List Nat} (proper : ∀ d ∈ ds, d < 10) : Clean (digitChars ds) := by
    intro c member
    obtain ⟨d, among, rfl⟩ := List.mem_map.mp member
    have all : ∀ d < 10, 32 ≤ d.digitChar.toNat := by decide
    exact all d (proper d among)
  have fraction : Clean n.fractionText := by
    unfold Numeral.fractionText
    cases digits' : n.fraction with
    | none => exact clean_nil
    | some ds => exact clean_cons.mpr ⟨by decide, digits (h.fraction ds digits').2⟩
  have power : Clean n.powerText := by
    unfold Numeral.powerText
    cases digits' : n.power with
    | none => exact clean_nil
    | some p =>
        refine clean_cons.mpr ⟨by decide, clean_append.mpr ⟨sign p.1, ?_⟩⟩
        exact digits (h.power p digits').2
  rw [Numeral.text, Numeral.magnitude]
  have behind := clean_append.mpr ⟨fraction, power⟩
  exact clean_append.mpr ⟨sign _, clean_append.mpr ⟨digits h.whole, behind⟩⟩

theorem clean_printItems {items : List Json} (each : ∀ item ∈ items, Clean item.print) :
    Clean (printItems items) := by
  induction items with
  | nil => exact clean_nil
  | cons item others ih =>
      have first := each item (List.mem_cons_self ..)
      have rest := ih fun item member => each item (List.mem_cons_of_mem _ member)
      cases others with
      | nil =>
          rw [printItems]
          exact first
      | cons next others =>
          rw [printItems]
          exact clean_append.mpr ⟨first, clean_cons.mpr ⟨by decide, rest⟩⟩

theorem clean_printFields {fields : List (String × Json)}
    (each : ∀ field ∈ fields, Clean field.2.print) : Clean (printFields fields) := by
  induction fields with
  | nil => exact clean_nil
  | cons field others ih =>
      have first := each field (List.mem_cons_self ..)
      have rest := ih fun field member => each field (List.mem_cons_of_mem _ member)
      have name := clean_printString field.1
      obtain ⟨name, value⟩ := field
      cases others with
      | nil =>
          rw [printFields]
          exact clean_append.mpr ⟨name, clean_cons.mpr ⟨by decide, first⟩⟩
      | cons next others =>
          simp [printFields, clean_append, clean_cons, name, first, rest]

/-- A value is printed on one line. -/
theorem clean_print (v : Json) : Clean v.print := by
  induction v using inductionOn with
  | null => simp [print, Clean]
  | bool b => cases b <;> simp [print, Clean]
  | number n =>
      rw [print, print_number]
      exact clean_numeral (numeral_proper n)
  | string s =>
      rw [print]
      exact clean_printString s
  | array items ih =>
      have inside := clean_printItems ih
      simp [print, clean_append, clean_cons, clean_nil, inside]
  | object fields ih =>
      have inside := clean_printFields ih
      simp [print, clean_append, clean_cons, clean_nil, inside]

end RemoteDesk.Json
