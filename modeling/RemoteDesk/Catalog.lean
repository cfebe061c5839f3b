/-! # Catalogs

A catalog maps names to texts and lists them in the order in which each name first came. Giving a
name a new text keeps its place. Subtask fragments and finished scripts are kept in catalogs.
-/

namespace RemoteDesk

/-- Texts by name, in order of first appearance. -/
abbrev Catalog := List (String × String)

namespace Catalog

/-- Gives a name a text: in its place if the catalog has the name, at the end if not. -/
def put (name text : String) : Catalog → Catalog
  | [] => [(name, text)]
  | (other, old) :: rest =>
    if other = name then (name, text) :: rest else (other, old) :: put name text rest

def get? (name : String) : Catalog → Option String
  | [] => none
  | (other, text) :: rest => if other = name then some text else get? name rest

def names (c : Catalog) : List String :=
  c.map (·.1)

@[simp] theorem get?_put_self (name text : String) (c : Catalog) :
    get? name (put name text c) = some text := by
  induction c with
  | nil => simp [put, get?]
  | cons entry rest ih =>
    obtain ⟨other, old⟩ := entry
    by_cases h : other = name <;> simp [put, get?, h, ih]

theorem get?_put_of_ne {name other : String} (h : other ≠ name) (text : String) (c : Catalog) :
    get? other (put name text c) = get? other c := by
  induction c with
  | nil => simp [put, get?, h.symm]
  | cons entry rest ih =>
    obtain ⟨third, old⟩ := entry
    by_cases hn : third = name
    · subst hn; simp [put, get?, h.symm]
    · by_cases ho : third = other
      · subst ho; simp [put, get?, hn]
      · simp [put, get?, hn, ho, ih]

@[simp] theorem names_cons (name text : String) (c : Catalog) :
    names ((name, text) :: c) = name :: names c :=
  rfl

@[simp] theorem names_append (c d : Catalog) : names (c ++ d) = names c ++ names d :=
  List.map_append

/-- A new name goes to the end. -/
theorem put_of_not_mem {name : String} {c : Catalog} (h : name ∉ names c) (text : String) :
    put name text c = c ++ [(name, text)] := by
  induction c with
  | nil => rfl
  | cons entry rest ih =>
    obtain ⟨other, old⟩ := entry
    simp only [names, List.map_cons, List.mem_cons, not_or] at h
    rw [put, if_neg (Ne.symm h.1), ih h.2, List.cons_append]

/-- A known name keeps its place. -/
theorem put_of_split {name : String} {c : Catalog} (h : name ∉ names c) (old text : String)
    (d : Catalog) : put name text (c ++ (name, old) :: d) = c ++ (name, text) :: d := by
  induction c with
  | nil => simp [put]
  | cons entry rest ih =>
    obtain ⟨other, kept⟩ := entry
    simp only [names, List.map_cons, List.mem_cons, not_or] at h
    rw [List.cons_append, put, if_neg (Ne.symm h.1), ih h.2, List.cons_append]

/-- A name of a catalog stands somewhere for the first time. -/
theorem split_of_mem {name : String} {c : Catalog} (h : name ∈ names c) :
    ∃ before old after, c = before ++ (name, old) :: after ∧ name ∉ names before := by
  induction c with
  | nil => cases h
  | cons entry rest ih =>
    obtain ⟨other, old⟩ := entry
    by_cases first : other = name
    · exact ⟨[], old, rest, by rw [first]; rfl, by simp [names]⟩
    · have later : name ∈ names rest := by
        simpa [names, Ne.symm first] using h
      obtain ⟨before, kept, after, rfl, absent⟩ := ih later
      refine ⟨(other, old) :: before, kept, after, rfl, ?_⟩
      simpa [names, Ne.symm first] using absent

/-- Putting a text under a name adds the name at the end, unless it is there already. -/
theorem names_put (name text : String) (c : Catalog) :
    names (put name text c) = if name ∈ names c then names c else names c ++ [name] := by
  split
  · next h =>
    obtain ⟨before, old, after, rfl, absent⟩ := split_of_mem h
    rw [put_of_split absent]
    simp [names]
  · next h => rw [put_of_not_mem h, names_append]; rfl

/-- A name stands where it stood, or it is the name that was put and was not there before. -/
theorem getElem?_names_put {name other : String} {c : Catalog} {place : Nat} {text : String}
    (h : (names (put name text c))[place]? = some other) :
    (names c)[place]? = some other ∨ (name ∉ names c ∧ other = name ∧ c.length = place) := by
  rw [names_put] at h
  split at h
  · exact .inl h
  · next fresh =>
    rw [List.getElem?_append] at h
    split at h
    · exact .inl h
    · next beyond =>
      rw [List.getElem?_singleton] at h
      split at h
      · next last =>
        have counted : (names c).length = c.length := List.length_map _
        exact .inr ⟨fresh, (Option.some.inj h).symm, by omega⟩
      · cases h

theorem nodup_put {c : Catalog} (h : (names c).Nodup) (name text : String) :
    (names (put name text c)).Nodup := by
  rw [names_put]
  split
  · exact h
  · next absent =>
    rw [List.nodup_append]
    refine ⟨h, by simp, ?_⟩
    rintro other member _ last rfl
    exact absent (List.mem_singleton.mp last ▸ member)

/-- What stands at a place stays there when another name gets a text. -/
theorem getElem?_put_of_ne {name other : String} {entries : Catalog} {place : Nat} {old : String}
    (h : entries[place]? = some (other, old)) (ne : other ≠ name) (text : String) :
    (put name text entries)[place]? = some (other, old) := by
  induction entries generalizing place with
  | nil => simp at h
  | cons entry rest ih =>
    obtain ⟨third, kept⟩ := entry
    cases place with
    | zero =>
      obtain ⟨rfl, rfl⟩ : third = other ∧ kept = old := by simpa using h
      simp [put, ne]
    | succ place =>
      rw [List.getElem?_cons_succ] at h
      unfold put
      split
      · exact h
      · exact ih h

/-- A name that stands at one place only gets its new text there. -/
theorem getElem?_put_self {name old : String} {entries : Catalog} {place : Nat}
    (nodup : (names entries).Nodup) (h : entries[place]? = some (name, old)) (text : String) :
    (put name text entries)[place]? = some (name, text) := by
  induction entries generalizing place with
  | nil => simp at h
  | cons entry rest ih =>
    obtain ⟨third, kept⟩ := entry
    cases place with
    | zero =>
      obtain ⟨rfl, rfl⟩ : third = name ∧ kept = old := by simpa using h
      simp [put]
    | succ place =>
      rw [List.getElem?_cons_succ] at h
      obtain ⟨absent, nodup⟩ := List.nodup_cons.mp nodup
      have member : name ∈ names rest := List.mem_map_of_mem (f := Prod.fst) (List.mem_of_getElem? h)
      have different : third ≠ name := fun same => absent (same ▸ member)
      rw [put, if_neg different, List.getElem?_cons_succ]
      exact ih nodup h

/-- A name that was put stands somewhere, with its new text. -/
theorem exists_place_put (name text : String) (c : Catalog) :
    ∃ place : Nat, (put name text c)[place]? = some (name, text) := by
  by_cases known : name ∈ names c
  · obtain ⟨before, old, after, rfl, absent⟩ := split_of_mem known
    exact ⟨before.length, by simp [put_of_split absent]⟩
  · exact ⟨c.length, by simp [put_of_not_mem known]⟩

/-- A catalog with distinct names splits at a place around a name that stands nowhere else. -/
theorem split_of_place {name text : String} {entries : Catalog} {place : Nat}
    (nodup : (names entries).Nodup) (h : entries[place]? = some (name, text)) :
    ∃ before after : Catalog, entries = before ++ (name, text) :: after ∧
      name ∉ names before ∧ name ∉ names after := by
  obtain ⟨before, after, rfl⟩ := List.append_of_mem (List.mem_of_getElem? h)
  rw [names_append, List.nodup_append] at nodup
  obtain ⟨-, inside, apart⟩ := nodup
  refine ⟨before, after, rfl, fun member => ?_, (List.nodup_cons.mp inside).1⟩
  exact apart name member name List.mem_cons_self rfl

/-- Putting a text under a name brings in nothing else. -/
theorem mem_of_mem_put {name text : String} {c : Catalog} {entry : String × String}
    (h : entry ∈ put name text c) : entry = (name, text) ∨ entry ∈ c := by
  by_cases known : name ∈ names c
  · obtain ⟨before, old, after, rfl, absent⟩ := split_of_mem known
    rw [put_of_split absent] at h
    rw [List.mem_append, List.mem_cons] at h
    rw [List.mem_append, List.mem_cons]
    rcases h with first | new | last
    · exact .inr (.inl first)
    · exact .inl new
    · exact .inr (.inr (.inr last))
  · rw [put_of_not_mem known] at h
    rw [List.mem_append, List.mem_singleton] at h
    exact h.symm

/-- The text that a name stands with, where names are distinct. -/
theorem get?_of_mem {c : Catalog} (nodup : (names c).Nodup) {entry : String × String}
    (h : entry ∈ c) : get? entry.1 c = some entry.2 := by
  induction c with
  | nil => cases h
  | cons first rest ih =>
    obtain ⟨name, text⟩ := first
    obtain ⟨absent, nodup⟩ := List.nodup_cons.mp nodup
    rcases List.mem_cons.mp h with rfl | later
    · simp [get?]
    · have member : entry.1 ∈ names rest := List.mem_map_of_mem later
      have different : name ≠ entry.1 := by
        rintro rfl
        exact absent member
      rw [get?, if_neg different]
      exact ih nodup later

end Catalog

end RemoteDesk
