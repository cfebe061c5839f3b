import RemoteDesk.Proofs.Path.Names

/-! # Directories that hold a path

The directory that holds what a path names is the path without its last name and without what names
nothing beside it. So the components of the directory come first among those of the path, and both
start from the same place.
-/

namespace RemoteDesk.Path

/-- Components that lead nowhere else. -/
def Idle (names : List Bytes) : Prop :=
  ∀ name ∈ names, name = [dot]

theorem idle_nil : Idle [] := by
  intro name member
  cases member

theorem components_slash (front : Bytes) : components ⟨front ++ [slash]⟩ = components ⟨front⟩ := by
  rw [components_append]
  simp [components, stretches]

/-! ## Without an idle end -/

theorem components_dropIdleEnd (back : Bytes) :
    ∃ idle, Idle idle ∧
      components ⟨back.reverse⟩ = components ⟨(dropIdleEnd back).reverse⟩ ++ idle := by
  fun_induction dropIdleEnd back with
  | case1 => exact ⟨[], idle_nil, rfl⟩
  | case2 b => exact ⟨[], idle_nil, (List.append_nil _).symm⟩
  | case3 b rest ih =>
      obtain ⟨idle, allIdle, same⟩ := ih
      refine ⟨idle, allIdle, ?_⟩
      rw [List.reverse_cons, components_slash, same]
  | case4 a b rest notSlash dotted ih =>
      obtain ⟨rfl, rfl⟩ := dotted
      obtain ⟨idle, allIdle, same⟩ := ih
      refine ⟨idle ++ [[dot]], ?_, ?_⟩
      · intro name member
        rcases List.mem_append.mp member with before | last
        · exact allIdle name before
        · exact List.mem_singleton.mp last
      · have alone : components ⟨[dot]⟩ = [[dot]] := by decide
        rw [List.reverse_cons, components_slash] at same
        rw [List.reverse_cons, List.reverse_cons, List.append_assoc, List.singleton_append,
          components_append, alone, same, List.append_assoc]
  | case5 a b rest notSlash named => exact ⟨[], idle_nil, (List.append_nil _).symm⟩

theorem getLast?_dropIdleEnd (back : Bytes) : (dropIdleEnd back).getLast? = back.getLast? := by
  fun_induction dropIdleEnd back with
  | case1 => rfl
  | case2 b => rfl
  | case3 b rest ih => rw [ih, List.getLast?_cons_cons]
  | case4 a b rest notSlash dotted ih => rw [ih, List.getLast?_cons_cons]
  | case5 a b rest notSlash named => rfl

/-- Only a path of separators ends in one once its idle end is off. -/
theorem dropIdleEnd_eq_slash {back rest : Bytes} (ends : dropIdleEnd back = slash :: rest) :
    rest = [] := by
  fun_induction dropIdleEnd back with
  | case1 => cases ends
  | case2 b => exact (List.cons.inj ends).2.symm
  | case3 b rest' ih => exact ih ends
  | case4 a b rest' notSlash dotted ih => exact ih ends
  | case5 a b rest' notSlash named => exact absurd (List.cons.inj ends).1 notSlash

theorem suffix_dropIdleEnd (back : Bytes) : dropIdleEnd back <:+ back := by
  fun_induction dropIdleEnd back with
  | case1 => exact List.suffix_refl _
  | case2 b => exact List.suffix_refl _
  | case3 b rest ih => exact ih.trans (List.suffix_cons _ _)
  | case4 a b rest notSlash dotted ih => exact ih.trans (List.suffix_cons _ _)
  | case5 a b rest notSlash named => exact List.suffix_refl _

theorem isAbsolute_eq (p : Path) : p.isAbsolute = (p.backwards.getLast? == some slash) := by
  rw [backwards, getLast?_dropIdleEnd, List.getLast?_reverse, isAbsolute]

/-! ## The holder and the name -/

/-- The path is that of its holder, a name in there and what names nothing. -/
structure Holds (holder : Path) (name : Bytes) (p : Path) : Prop where
  named : name ≠ []
  single : slash ∉ name
  components : ∃ before after, Idle before ∧ Idle after ∧
    p.components = holder.components ++ before ++ name :: after
  absolute : holder.isAbsolute = p.isAbsolute

/-- The name that a path ends in once its idle end is off. -/
def lastName (p : Path) : Bytes :=
  (p.backwards.takeWhile (· ≠ slash)).reverse

theorem slash_not_mem_lastName (p : Path) : slash ∉ p.lastName := by
  intro member
  have others := List.all_takeWhile (l := p.backwards) (p := (· ≠ slash))
  simpa using List.all_eq_true.mp others slash (List.mem_reverse.mp member)

theorem lastName_ne_nil {p : Path} (nonempty : p.backwards ≠ []) (below : p.backwards ≠ [slash]) :
    p.lastName ≠ [] := by
  intro unnamed
  obtain ⟨b, rest, same⟩ := List.exists_cons_of_ne_nil nonempty
  rw [lastName, List.reverse_eq_nil_iff, same, List.takeWhile_cons] at unnamed
  obtain rfl : b = slash := by simpa using unnamed
  obtain rfl := dropIdleEnd_eq_slash same
  exact below same

theorem holds_of_parent {p holder : Path} (held : p.parent? = some holder) :
    Holds holder p.lastName p := by
  -- The path, last byte first: what is idle, the last name, and what stands before the name.
  obtain ⟨below, rfl⟩ : p.backwards ≠ [slash] ∧
      ⟨(dropIdleEnd (p.backwards.dropWhile (· ≠ slash))).reverse⟩ = holder := by
    unfold parent? at held
    split at held
    · cases held
    · simpa using held
  have nonempty : p.backwards ≠ [] := by
    intro empty
    simp [parent?, empty] at held
  have named := lastName_ne_nil nonempty below
  have single := p.slash_not_mem_lastName
  have cut : p.backwards = p.lastName.reverse ++ p.backwards.dropWhile (· ≠ slash) := by
    rw [lastName, List.reverse_reverse, List.takeWhile_append_dropWhile]
  obtain ⟨after, idleAfter, whole⟩ := components_dropIdleEnd p.bytes.reverse
  rw [List.reverse_reverse, ← backwards] at whole
  have alone : components ⟨p.lastName⟩ = [p.lastName] := by
    simp [components, stretches_of_name single, named]
  cases rest : p.backwards.dropWhile (· ≠ slash) with
  | nil =>
      rw [rest, List.append_nil] at cut
      rw [cut, List.reverse_reverse, alone] at whole
      refine ⟨named, single, ⟨[], after, idle_nil, idleAfter, whole⟩, ?_⟩
      rw [isAbsolute_eq p, cut, List.getLast?_reverse]
      cases first : p.lastName with
      | nil => exact absurd first named
      | cons b others =>
          rw [first] at single
          obtain ⟨other, -⟩ := List.ne_and_not_mem_of_not_mem_cons single
          simpa [isAbsolute, dropIdleEnd] using Ne.symm other
  | cons b front =>
      have stops := List.head?_dropWhile_not (· ≠ slash) p.backwards
      rw [rest, List.head?_cons] at stops
      obtain rfl : b = slash := by simpa using stops
      rw [rest] at cut
      rw [cut, List.reverse_append, List.reverse_cons, List.reverse_reverse, List.append_assoc,
        List.singleton_append, components_append, alone] at whole
      obtain ⟨before, idleBefore, same⟩ := components_dropIdleEnd (slash :: front)
      rw [List.reverse_cons, components_slash] at same
      rw [same, List.append_assoc, List.singleton_append] at whole
      refine ⟨named, single, ⟨before, after, idleBefore, idleAfter, whole⟩, ?_⟩
      rw [isAbsolute_eq p, cut, List.getLast?_append, List.getLast?_cons, Option.some_or, isAbsolute,
        List.head?_reverse, getLast?_dropIdleEnd, List.getLast?_cons]

theorem prefix_of_parent {p holder : Path} (held : p.parent? = some holder) :
    holder.bytes <+: p.bytes := by
  unfold parent? at held
  split at held
  · cases held
  · split at held
    · cases held
    · cases held
      rw [← List.reverse_suffix, List.reverse_reverse]
      exact ((suffix_dropIdleEnd _).trans (List.dropWhile_suffix _)).trans (suffix_dropIdleEnd _)

theorem fileName?_eq_some {p : Path} {name : Bytes} (has : p.fileName? = some name) :
    p.lastName = name ∧ name ≠ [dot] := by
  simp only [fileName?, Option.ite_none_left_eq_some, Option.some.injEq, not_or] at has
  obtain ⟨⟨-, single, -⟩, rfl⟩ := has
  exact ⟨rfl, single⟩

/-- What has a name is held by something. -/
theorem exists_parent_of_fileName {p : Path} {name : Bytes} (has : p.fileName? = some name) :
    ∃ holder, p.parent? = some holder := by
  obtain ⟨rfl, -⟩ := fileName?_eq_some has
  unfold parent?
  split
  · next empty => simp [fileName?, empty] at has
  · split
    · next below => simp [fileName?, below] at has
    · exact ⟨_, rfl⟩

/-! ## The lineage of a path -/

/-- A directory that a path goes through before its last component. -/
structure Passes (p holder : Path) : Prop where
  front : holder.components <+: p.components.dropLast
  absolute : holder.isAbsolute = p.isAbsolute

theorem Holds.passes {p holder : Path} {name : Bytes} (h : Holds holder name p) :
    p.Passes holder := by
  obtain ⟨before, after, -, -, whole⟩ := h.components
  refine ⟨?_, h.absolute⟩
  rw [whole, List.append_assoc, List.dropLast_append_of_ne_nil (by simp)]
  exact List.prefix_append _ _

theorem Passes.parent {p holder outer : Path} (h : p.Passes holder)
    (held : holder.parent? = some outer) : p.Passes outer := by
  have inner := (holds_of_parent held).passes
  exact ⟨(inner.front.trans (List.dropLast_prefix _)).trans h.front,
    inner.absolute.trans h.absolute⟩

/-- A path goes through the whole lineage of the directory that holds it. -/
theorem Passes.lineage {p holder : Path} (h : p.Passes holder) :
    ∀ q ∈ holder.lineage, p.Passes q := by
  unfold Path.lineage
  generalize holder.bytes.length = fuel
  induction fuel generalizing holder with
  | zero => exact nofun
  | succ fuel ih =>
      unfold lineage.go
      split
      · exact nofun
      · split
        · intro q member
          rwa [List.mem_singleton.mp member]
        · next outer held =>
            intro q member
            rcases List.mem_cons.mp member with rfl | later
            · exact h
            · exact ih (h.parent held) q later

end RemoteDesk.Path
