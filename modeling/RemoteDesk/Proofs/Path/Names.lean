import RemoteDesk.Path

/-! # Names on a path

A separator cuts a row of bytes in two, and each part has its own stretches. So a name that contains
none is the last component of every path that it is joined to.
-/

namespace RemoteDesk.Path

theorem stretches_ne_nil (bytes : Bytes) : stretches bytes ≠ [] := by
  cases bytes with
  | nil => simp [stretches]
  | cons b rest =>
      unfold stretches
      split
      · simp
      · split <;> simp

theorem stretches_of_name {name : Bytes} (single : slash ∉ name) : stretches name = [name] := by
  induction name with
  | nil => rfl
  | cons b rest ih =>
      obtain ⟨other, others⟩ := List.ne_and_not_mem_of_not_mem_cons single
      simp [stretches, Ne.symm other, ih others]

theorem stretches_append (front back : Bytes) :
    stretches (front ++ slash :: back) = stretches front ++ stretches back := by
  induction front with
  | nil => simp [stretches]
  | cons b rest ih =>
      by_cases separates : b = slash
      · simp [stretches, separates, ih]
      · cases first : stretches rest with
        | nil => exact (stretches_ne_nil rest first).elim
        | cons s others => simp [stretches, separates, ih, first]

theorem components_append (front back : Bytes) :
    components ⟨front ++ slash :: back⟩ = components ⟨front⟩ ++ components ⟨back⟩ := by
  simp [components, stretches_append]

section Join

variable {base : Path} {name : Bytes}

/-- A name is joined to the empty path, to one that ends in a separator, or with a separator
    between. -/
theorem join_name_cases (base : Path) (single : slash ∉ name) (named : name ≠ []) :
    (base.bytes = [] ∧ base.join ⟨name⟩ = ⟨name⟩) ∨
    (∃ front, base.bytes = front ++ [slash] ∧ base.join ⟨name⟩ = ⟨front ++ slash :: name⟩) ∨
    (base.bytes ≠ [] ∧ base.join ⟨name⟩ = ⟨base.bytes ++ slash :: name⟩) := by
  have relative : isAbsolute ⟨name⟩ = false := by
    cases name with
    | nil => exact (named rfl).elim
    | cons b rest =>
        obtain ⟨other, -⟩ := List.ne_and_not_mem_of_not_mem_cons single
        simpa [isAbsolute] using Ne.symm other
  unfold join
  simp only [relative, Bool.false_eq_true, if_false]
  by_cases nothing : base.bytes = []
  · simp [nothing]
  by_cases ends : base.endsInSlash
  · obtain ⟨front, same⟩ : ∃ front, base.bytes = front ++ [slash] :=
      List.getLast?_eq_some_iff.mp (by simpa [endsInSlash] using ends)
    refine .inr (.inl ⟨front, same, ?_⟩)
    simp [same, endsInSlash]
  · exact .inr (.inr ⟨nothing, by simp [nothing, ends]⟩)

theorem prefix_join (base : Path) (single : slash ∉ name) (named : name ≠ []) :
    base.bytes <+: (base.join ⟨name⟩).bytes := by
  rcases join_name_cases base single named with
    ⟨nothing, joined⟩ | ⟨front, ends, joined⟩ | ⟨-, joined⟩
  · simp [nothing]
  · rw [joined, ends]
    exact ⟨name, List.append_assoc _ _ _⟩
  · rw [joined]
    exact List.prefix_append _ _

theorem components_join (single : slash ∉ name) (named : name ≠ []) :
    (base.join ⟨name⟩).components = base.components ++ [name] := by
  have alone : components ⟨name⟩ = [name] := by simp [components, stretches_of_name single, named]
  rcases join_name_cases base single named with
    ⟨nothing, joined⟩ | ⟨front, ends, joined⟩ | ⟨-, joined⟩
  · rw [joined, alone]
    simp [components, nothing, stretches]
  · rw [joined, components_append, alone, show base = ⟨front ++ [slash]⟩ from congrArg mk ends,
      components_append]
    simp [components, stretches]
  · rw [joined, components_append, alone]

theorem isAbsolute_join (single : slash ∉ name) (named : name ≠ []) :
    (base.join ⟨name⟩).isAbsolute = base.isAbsolute := by
  rcases join_name_cases base single named with
    ⟨nothing, joined⟩ | ⟨front, ends, joined⟩ | ⟨something, joined⟩
  · cases name with
    | nil => exact (named rfl).elim
    | cons b rest =>
        obtain ⟨other, -⟩ := List.ne_and_not_mem_of_not_mem_cons single
        simpa [joined, isAbsolute, nothing] using Ne.symm other
  · cases front <;> simp [joined, isAbsolute, ends]
  · cases same : base.bytes with
    | nil => exact (something same).elim
    | cons b rest => simp [joined, isAbsolute, same]

end Join

theorem slash_not_mem_fileName {p : Path} {name : Bytes} (has : p.fileName? = some name) :
    slash ∉ name := by
  simp only [fileName?, Option.ite_none_left_eq_some, Option.some.injEq] at has
  obtain ⟨-, rfl⟩ := has
  intro member
  have others := List.all_takeWhile (l := p.backwards) (p := (· ≠ slash))
  simpa using List.all_eq_true.mp others slash (List.mem_reverse.mp member)

end RemoteDesk.Path
