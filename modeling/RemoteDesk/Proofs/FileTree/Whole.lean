import RemoteDesk.Proofs.FileTree.Appending
import RemoteDesk.Proofs.FileTree.Replace
import RemoteDesk.Proofs.Path.Holders

/-! # Replaced as a whole or not at all

A file is replaced in several steps, and each of them can be refused. Making directories is the first,
and what it makes lies on the way of the path. The text is then written to a sibling, which stands
beside the target, and is either moved over the target or taken away again. So a refusal leaves new
directories on the way at most, and success leaves the target with its new content besides; of the
sibling nothing is left either way.
-/

namespace RemoteDesk.FileTree

/-! ## The way of a path -/

/-- Where the components of a path start from. -/
def start (t : FileTree) (p : Path) : Place :=
  if p.isAbsolute then [] else t.workingDirectory

/-- The path goes through this place before its last component. -/
def Through (t : FileTree) (p : Path) (place : Place) : Prop :=
  ∃ front, front <+: p.components.dropLast ∧ t.descend (t.start p) front = .ok place

/-- At most there are more directories, and those that are new lie on the way of the path. -/
structure Paves (t : FileTree) (p : Path) (t' : FileTree) : Prop where
  grows : t.Grows t'
  through : ∀ place, t'.entry? place ≠ t.entry? place → t'.Through p place

section Way

variable {t t' t'' : FileTree} {p holder : Path} {place : Place}

theorem start_of_keeps {spared : Place → Prop} (h : t.Keeps spared t') (p : Path) :
    t'.start p = t.start p := by
  rw [start, start, h.workingDirectory]

theorem start_of_absolute (same : holder.isAbsolute = p.isAbsolute) : t.start holder = t.start p := by
  rw [start, start, same]

theorem Through.later {spared : Place → Prop} (h : t.Through p place) (keeps : t.Keeps spared t') :
    t'.Through p place := by
  obtain ⟨front, first, reached⟩ := h
  exact ⟨front, first, start_of_keeps keeps p ▸ keeps.descend reached⟩

namespace Paves

theorem refl (t : FileTree) (p : Path) : t.Paves p t :=
  ⟨.refl t, fun _ other => (other rfl).elim⟩

theorem trans (h : t.Paves p t') (h' : t'.Paves p t'') : t.Paves p t'' := by
  refine ⟨h.grows.trans h'.grows, fun place other => ?_⟩
  by_cases same : t''.entry? place = t'.entry? place
  · rw [same] at other
    exact (h.through place other).later (h'.grows.keeps fun _ => True)
  · exact h'.through place same

theorem makeDirectory (passes : p.Passes holder) (made : t.makeDirectory holder = .ok t') :
    t.Paves p t' := by
  have grown := grows_of_makeDirectory made
  refine ⟨grown, fun place other => ⟨holder.components, passes.front, ?_⟩⟩
  obtain ⟨directory, name, led, stepped, -, rfl⟩ := makeDirectory_cases made
  obtain rfl : place = directory ++ [name] := by
    apply Decidable.byContradiction
    intro apart
    exact other (t.entry?_set_of_ne apart .directory)
  obtain ⟨-, descended, last⟩ := approach_eq_ok.mp led
  obtain ⟨outer, whole⟩ := List.getLast?_eq_some_iff.mp last
  have there := (grown.keeps fun _ => True).descend descended
  rw [whole, List.dropLast_concat] at there
  rw [whole, descend_append, start, ← passes.absolute]
  change (descend _ (if holder.isAbsolute then [] else t.workingDirectory) outer >>= _) = _
  rw [there]
  simp [bind, Except.bind, descend, stepped, entry?_set_self]

theorem makeLineage {holders : List Path} (t : FileTree) (passes : ∀ q ∈ holders, p.Passes q) :
    t.Paves p (t.makeLineage holders).2 := by
  induction holders with
  | nil => exact .refl t p
  | cons q holders ih =>
      have first := passes q List.mem_cons_self
      have inner := ih fun outer member => passes outer (List.mem_cons_of_mem _ member)
      unfold FileTree.makeLineage
      cases made : t.makeDirectory q with
      | ok t' => exact .makeDirectory first made
      | error e =>
          cases e with
          | notFound =>
              simp only
              rcases held : t.makeLineage holders with ⟨e | ⟨⟩, t'⟩ <;> rw [held] at inner
              · exact inner
              · simp only
                cases made' : t'.makeDirectory q with
                | error e => exact inner
                | ok t'' => exact inner.trans (.makeDirectory first made')
          | _ => exact .refl t p

theorem makeParent (t : FileTree) (p : Path) (complain : Path → OsError → DeskError) :
    t.Paves p (t.makeParent p complain).2 := by
  unfold FileTree.makeParent makeDirectories
  cases held : p.parent? with
  | none => exact .refl t p
  | some parent =>
      simp only
      split
      · exact .refl t p
      · have paved : t.Paves p (t.makeLineage parent.lineage).2 :=
          .makeLineage t (Path.holds_of_parent held).passes.lineage
        rcases made : t.makeLineage parent.lineage with ⟨e | ⟨⟩, t'⟩ <;> rw [made] at paved
        · exact paved
        · exact paved

end Paves

end Way

/-! ## The sibling -/

/-- The sibling of a file stands at this place: in the directory that holds the file, under the name
    of the file between a dot and `.tmp`. -/
def Aside (t : FileTree) (p : Path) (place : Place) : Prop :=
  ∃ holder directory name, p.parent? = some holder ∧ p.fileName? = some name ∧
    t.descend (t.start p) holder.components = .ok directory ∧
    place = directory ++ [temporaryName name]

section Aside

variable {t t' : FileTree} {p sibling : Path} {directory place : Place} {name : Bytes}

theorem Aside.later {spared : Place → Prop} (h : t.Aside p place) (keeps : t.Keeps spared t') :
    t'.Aside p place := by
  obtain ⟨holder, directory, name, held, named, reached, same⟩ := h
  exact ⟨holder, directory, name, held, named, start_of_keeps keeps p ▸ keeps.descend reached, same⟩

theorem aside_of_sibling (has : temporarySibling? p = some sibling)
    (leads : t.Leads sibling directory name) : t.Aside p (directory ++ [name]) := by
  obtain ⟨target, named, -, rfl⟩ := temporarySibling?_eq_some has
  obtain ⟨holder, held⟩ := Path.exists_parent_of_fileName named
  rw [held, Option.getD_some] at leads
  have single := slash_not_mem_temporaryName (Path.slash_not_mem_fileName named)
  have nonempty : temporaryName target ≠ [] := List.cons_ne_nil _ _
  obtain ⟨-, descended, last⟩ := approach_eq_ok.mp leads.approached
  rw [Path.components_join single nonempty, List.dropLast_concat,
    Path.isAbsolute_join single nonempty] at descended
  rw [Path.components_join single nonempty, List.getLast?_concat, Option.some.injEq] at last
  have absolute := (Path.holds_of_parent held).absolute
  exact ⟨holder, directory, target, held, named, start_of_absolute absolute ▸ descended, last ▸ rfl⟩

theorem descend_idle {names : List Bytes} (idle : Path.Idle names)
    (reached : t.descend directory names = .ok place) : place = directory := by
  induction names with
  | nil => exact (Except.ok.inj reached).symm
  | cons component rest ih =>
      obtain rfl := idle component List.mem_cons_self
      simp only [descend, step, if_true, bind, Except.bind] at reached
      rcases stands : t.entry? directory with _ | _ | _
      · simp [stands] at reached
      · simp [stands] at reached
      · rw [stands] at reached
        exact ih (fun other member => idle other (List.mem_cons_of_mem _ member)) reached

theorem Leads.ne_dot (h : t.Leads p directory name) : name ≠ [Path.dot] := by
  rintro rfl
  have stays := h.stepped
  rw [step, if_pos rfl, Except.ok.injEq] at stays
  simp at stays

/-- A path that leads to a file leads beside its sibling. -/
theorem Aside.beside (h : t.Aside p place) (leads : t.Leads p directory name) :
    p.fileName? = some name ∧ place = directory ++ [temporaryName name] := by
  obtain ⟨holder, reached, base, held, named, descended, rfl⟩ := h
  have holds := Path.holds_of_parent held
  obtain ⟨rfl, -⟩ := Path.fileName?_eq_some named
  obtain ⟨before, after, idleBefore, idleAfter, whole⟩ := holds.components
  -- A component that names nothing leads to no file, so the name is the last one.
  obtain rfl : after = [] := by
    apply Decidable.byContradiction
    intro nonempty
    obtain ⟨others, last, rfl⟩ := (List.eq_nil_or_concat after).resolve_left nonempty
    have ends := leads.last
    rw [whole, List.concat_eq_append, ← List.cons_append, ← List.append_assoc,
      List.getLast?_concat, Option.some.injEq] at ends
    exact leads.ne_dot (ends ▸ idleAfter last (by simp))
  obtain ⟨-, through, last⟩ := approach_eq_ok.mp leads.approached
  rw [whole, List.getLast?_concat, Option.some.injEq] at last
  rw [whole, List.dropLast_concat, descend_append] at through
  change t.descend (t.start p) holder.components >>= _ = _ at through
  rw [descended] at through
  have same : directory = reached := descend_idle idleBefore through
  rw [last] at named
  rw [last, same]
  exact ⟨named, rfl⟩

theorem temporaryName_ne (name : Bytes) : temporaryName name ≠ name := by
  intro same
  have counted := congrArg List.length same
  simp only [temporaryName, List.length_append, List.length_cons] at counted
  omega

end Aside

/-! ## Where a file can be replaced -/

section Room

variable {t : FileTree} {p sibling : Path} {directory place : Place} {name temporary : Bytes}

theorem Leads.own (h : t.Leads p directory name) : ownName? (some name) = some name := by
  have up : name ≠ [Path.dot, Path.dot] := by
    rintro rfl
    have shorter := h.stepped
    rw [step, if_neg (by decide), if_pos rfl, Except.ok.injEq] at shorter
    have counted := congrArg List.length shorter
    simp only [List.length_dropLast, List.length_append, List.length_singleton] at counted
    omega
  simp [ownName?, h.ne_dot, up]

theorem Leads.writable (h : t.Leads p directory name)
    (free : t.entry? (directory ++ [name]) ≠ some .directory) :
    t.writable p = .ok (directory ++ [name]) := by
  simp only [FileTree.writable, bind, Except.bind, h.approached, h.own, h.open_, h.stepped,
    Bool.false_eq_true, if_false]
  rcases stands : t.entry? (directory ++ [name]) with _ | _ | _
  · rfl
  · rfl
  · exact (free stands).elim

theorem Leads.write (h : t.Leads p directory name)
    (free : t.entry? (directory ++ [name]) ≠ some .directory) (content : Bytes) :
    t.write p content = .ok (t.set (directory ++ [name]) (.file content)) := by
  simp [FileTree.write, h.writable free, bind, Except.bind, pure, Except.pure]

theorem Leads.rename {start : Place} {content : Bytes} (h : t.Leads sibling start temporary)
    (stands : t.entry? (start ++ [temporary]) = some (.file content))
    (h' : t.Leads p directory name) (free : t.entry? (directory ++ [name]) ≠ some .directory) :
    t.rename sibling p =
      .ok ((t.remove (start ++ [temporary])).set (directory ++ [name]) (.file content)) := by
  have open_ : t.isDirectoryAt (directory ++ [name]) = false := by simpa [isDirectoryAt] using free
  simp [FileTree.rename, bind, Except.bind, h.approached, h'.approached, h.own, h'.own,
    h.find stands, h'.stepped, h'.open_, open_, pure, Except.pure]

/-- Nothing is made for a path whose directory is there. -/
theorem Leads.makeParent (h : t.Leads p directory name) (complain : Path → OsError → DeskError) :
    t.makeParent p complain = (.ok (), t) := by
  unfold FileTree.makeParent
  cases held : p.parent? with
  | none => rfl
  | some parent =>
      by_cases nothing : parent.bytes = []
      · simp [nothing]
      have exists_ : t.pathExists parent := by
        obtain ⟨spelled, through, -⟩ := approach_eq_ok.mp h.approached
        have holds := Path.holds_of_parent held
        obtain ⟨rest, whole⟩ := holds.passes.front
        rw [← whole, descend_append] at through
        cases reached : t.descend (if p.isAbsolute then [] else t.workingDirectory)
            parent.components with
        | error e => simp [reached, bind, Except.bind] at through
        | ok place =>
            have before : checkSpelling parent = .ok () := by
              obtain ⟨more, bytes⟩ := Path.prefix_of_parent held
              rw [checkSpelling_eq_ok, ← bytes] at spelled
              obtain ⟨unbroken, -, short⟩ := spelled
              simp only [List.mem_append, not_or, List.length_append] at unbroken short
              exact checkSpelling_eq_ok.mpr ⟨unbroken.1, nothing, by omega⟩
            rw [← holds.absolute] at reached
            rw [pathExists, find_of_descend before reached]
            rfl
      simp [exists_]

/-- A file is replaced where its directory is there, the sibling can be made in it and no directory
    stands in the way. -/
theorem replace_of_leads {start : Place} (has : temporarySibling? p = some sibling)
    (aside : t.Leads sibling start temporary) (leads : t.Leads p directory name)
    (free : t.entry? (start ++ [temporary]) ≠ some .directory)
    (free' : t.entry? (directory ++ [name]) ≠ some .directory) (content : Bytes) :
    (t.replace p content).1 = .ok () := by
  have put := Touches.set t free (.file content)
  have stands : entry? (t.set (start ++ [temporary]) (.file content)) (start ++ [temporary]) =
      some (.file content) := t.entry?_set_self (by simp) _
  have free'' : entry? (t.set (start ++ [temporary]) (.file content)) (directory ++ [name]) ≠
      some .directory := by
    by_cases same : directory ++ [name] = start ++ [temporary]
    · rw [same, stands]
      simp
    · rwa [t.entry?_set_of_ne same]
  have moved := (aside.later (.of_touches put)).rename stands (leads.later (.of_touches put)) free''
  rw [replace, leads.makeParent, has]
  simp only [replaceThrough, aside.write free, moved]

end Room

/-! ## As a whole or not at all -/

/-- What stands at the place is as before, or is a new directory on the way of the path. -/
def Spares (t : FileTree) (p : Path) (place : Place) (t' : FileTree) : Prop :=
  t'.entry? place = t.entry? place ∨
    (t.entry? place = none ∧ t'.entry? place = some .directory ∧ t'.Through p place)

theorem Paves.spares {t t' : FileTree} {p : Path} (h : t.Paves p t') (place : Place) :
    t.Spares p place t' := by
  by_cases same : t'.entry? place = t.entry? place
  · exact .inl same
  · obtain ⟨absent, made⟩ := (h.grows.entry place).resolve_left same
    exact .inr ⟨absent, made, h.through place same⟩

/-- Places that are not touched later on stay spared. -/
theorem Spares.touches {t t' t'' : FileTree} {p : Path} {place : Place} {places : List Place}
    (h : t.Spares p place t') (touches : t'.Touches places t'') (apart : place ∉ places) :
    t.Spares p place t'' := by
  have same := touches.elsewhere place apart
  rcases h with before | ⟨absent, made, through⟩
  · exact .inl (same.trans before)
  · exact .inr ⟨absent, same.trans made, through.later (.of_touches touches)⟩

section Whole

variable {t t' : FileTree} {p : Path} {content : Bytes}

/-- A file that was replaced holds the new content, its sibling does not exist, and every other entry
    is spared. -/
theorem spares_of_replaced (h : t.replace p content = (.ok (), t')) :
    ∃ directory name, p.fileName? = some name ∧ t'.Aside p (directory ++ [temporaryName name]) ∧
      t'.find p = .ok (directory ++ [name], .file content) ∧
      t'.entry? (directory ++ [temporaryName name]) = none ∧
      ∀ q, q ≠ directory ++ [name] → q ≠ directory ++ [temporaryName name] → t.Spares p q t' := by
  have paved := Paves.makeParent t p .parentDirectory
  obtain ⟨⟨e, refused⟩, -⟩ | ⟨sibling, has, through⟩ := replace_cases h
  · cases refused
  obtain ⟨start, temporary, directory, name, away, leads, touches, stands, gone⟩ :=
    replaceThrough_ok through
  have aside := (aside_of_sibling has away).later (.of_touches touches)
  obtain ⟨named, same⟩ := aside.beside leads
  have apart : start ++ [temporary] ≠ directory ++ [name] := by
    rw [same]
    intro both
    exact temporaryName_ne name (List.singleton_inj.mp (List.append_cancel_left both))
  have missing := gone apart
  rw [same] at aside missing touches
  refine ⟨directory, name, named, aside, leads.find stands, missing, ?_⟩
  intro q notTarget notAside
  exact (paved.spares q).touches touches (by simp [notTarget, notAside])

/-- Where a file could not be replaced, every entry is spared, but a file that stood at the sibling's
    place may be gone. -/
theorem spares_of_refused {e : DeskError} (h : t.replace p content = (.error e, t')) (q : Place) :
    t.Spares p q t' ∨
      (t'.Aside p q ∧ (∃ old, t.entry? q = some (.file old)) ∧ t'.entry? q = none) := by
  have paved := Paves.makeParent t p .parentDirectory
  obtain ⟨-, rfl⟩ | ⟨sibling, has, through⟩ := replace_cases h
  · exact .inl (paved.spares q)
  rcases replaceThrough_error through with rfl | ⟨start, temporary, away, touches, gone⟩
  · exact .inl (paved.spares q)
  by_cases there : q = start ++ [temporary]
  · have free := touches.free q (List.mem_singleton.mpr there)
    have before := (paved.grows.entry q).resolve_right fun made => free made.2
    rw [before] at free
    have missing := there ▸ gone
    rcases stood : t.entry? q with _ | old | _
    · exact .inl (.inl (missing.trans stood.symm))
    · have aside := (aside_of_sibling has away).later (.of_touches touches)
      exact .inr ⟨there ▸ aside, ⟨old, rfl⟩, missing⟩
    · exact (free stood).elim
  · exact .inl ((paved.spares q).touches touches (by simpa using there))

end Whole

/-- A file is replaced as a whole or not at all. If replacing it succeeds, it holds the new content,
    its sibling does not exist and every other entry is spared. If it is refused, every entry is
    spared but for a file that stood at the sibling's place and is gone. It does succeed where the
    directory of the file is there, the sibling can be made in it and no directory stands at either
    place. -/
theorem replace_whole_or_not_at_all (t : FileTree) (p : Path) (content : Bytes) :
    (∀ t', t.replace p content = (.ok (), t') → ∃ directory name,
      p.fileName? = some name ∧ t'.Aside p (directory ++ [temporaryName name]) ∧
      t'.find p = .ok (directory ++ [name], .file content) ∧
      t'.entry? (directory ++ [temporaryName name]) = none ∧
      ∀ q, q ≠ directory ++ [name] → q ≠ directory ++ [temporaryName name] → t.Spares p q t') ∧
    (∀ e t', t.replace p content = (.error e, t') → ∀ q,
      t.Spares p q t' ∨
        (t'.Aside p q ∧ (∃ old, t.entry? q = some (.file old)) ∧ t'.entry? q = none)) ∧
    (∀ sibling start temporary directory name, temporarySibling? p = some sibling →
      t.Leads sibling start temporary → t.Leads p directory name →
      t.entry? (start ++ [temporary]) ≠ some .directory →
      t.entry? (directory ++ [name]) ≠ some .directory → (t.replace p content).1 = .ok ()) := by
  refine ⟨fun t' replaced => spares_of_replaced replaced,
    fun e t' refused q => spares_of_refused refused q, ?_⟩
  intro sibling start temporary directory name has aside leads free free'
  exact replace_of_leads has aside leads free free' content

/-- Beside a sibling that was left behind: an old file is replaced by way of a directory that has to
    be made, it stays when its path ends in a separator, and it is replaced by its plain path. -/
theorem replace_whole_or_not_at_all_beside_old_sibling :
    ∃ (t t' u : FileTree) (e : DeskError) (directory : Place) (name : Bytes),
      let out := Utf8.encode "out"
      let file := Utf8.encode "a.au3"
      let new := Utf8.encode "new"
      let detour := Path.ofString "out/made/../a.au3"
      let plain := Path.ofString "out/a.au3"
      t = ⟨[([out], .directory), ([out, file], .file (Utf8.encode "old")),
        ([out, temporaryName file], .file (Utf8.encode "torn"))], []⟩ ∧
      t.replace detour new = (.ok (), t') ∧
      t'.find detour = .ok (directory ++ [name], .file new) ∧
      t'.entry? (directory ++ [temporaryName name]) = none ∧
      t.replace (Path.ofString "out/a.au3/") new = (.error e, u) ∧
      u.entry? [out, file] = some (.file (Utf8.encode "old")) ∧
      t.Leads (Path.ofString "out/.a.au3.tmp") [out] (temporaryName file) ∧
      t.Leads plain [out] file ∧ (t.replace plain new).1 = .ok () := by
  -- The tree gets a name, so that only the steps below that need its entries look into them.
  obtain ⟨t, entries⟩ : ∃ t : FileTree, t = ⟨[([Utf8.encode "out"], .directory),
      ([Utf8.encode "out", Utf8.encode "a.au3"], .file (Utf8.encode "old")),
      ([Utf8.encode "out", temporaryName (Utf8.encode "a.au3")], .file (Utf8.encode "torn"))], []⟩ :=
    ⟨_, rfl⟩
  have done : (t.replace (Path.ofString "out/made/../a.au3") (Utf8.encode "new")).1.toOption =
      some () := by
    rw [entries]
    decide +kernel
  have refused : (t.replace (Path.ofString "out/a.au3/") (Utf8.encode "new")).1.toOption =
      none := by
    rw [entries]
    decide +kernel
  have stood : t.entry? [Utf8.encode "out", Utf8.encode "a.au3"] =
      some (.file (Utf8.encode "old")) := by
    rw [entries]
    decide +kernel
  have leads : t.Leads (Path.ofString "out/a.au3") [Utf8.encode "out"] (Utf8.encode "a.au3") := by
    refine ⟨ok_of_toOption ?_, ok_of_toOption ?_, ?_⟩ <;> subst entries <;> decide +kernel
  have aside : t.Leads (Path.ofString "out/.a.au3.tmp") [Utf8.encode "out"]
      (temporaryName (Utf8.encode "a.au3")) := by
    refine ⟨ok_of_toOption ?_, ok_of_toOption ?_, ?_⟩ <;> subst entries <;> decide +kernel
  rcases replaced : t.replace (Path.ofString "out/made/../a.au3") (Utf8.encode "new") with
    ⟨answer, t'⟩
  rw [replaced] at done
  obtain rfl : answer = .ok () := ok_of_toOption done
  obtain ⟨directory, name, -, -, found, missing, -⟩ :=
    (replace_whole_or_not_at_all t _ _).1 t' replaced
  rcases stays : t.replace (Path.ofString "out/a.au3/") (Utf8.encode "new") with ⟨e | ⟨⟩, u⟩
  · have kept : u.entry? [Utf8.encode "out", Utf8.encode "a.au3"] =
        some (.file (Utf8.encode "old")) := by
      rcases (replace_whole_or_not_at_all t _ _).2.1 e u stays
        [Utf8.encode "out", Utf8.encode "a.au3"] with
        (same | ⟨absent, -⟩) | ⟨⟨holder, reached, base, -, -, -, same⟩, -⟩
      · exact same.trans stood
      · rw [stood] at absent
        cases absent
      · -- The sibling's name begins with a dot, and that of the old file does not.
        have bare : (Utf8.encode "a.au3").head? ≠ some Path.dot := by decide +kernel
        have last := congrArg List.getLast? same
        rw [List.getLast?_concat, List.getLast?_cons_cons, List.getLast?_singleton] at last
        exact absurd (Option.some.inj last ▸ rfl) bare
    have free : t.entry? [Utf8.encode "out", temporaryName (Utf8.encode "a.au3")] ≠
        some .directory := by
      subst entries
      decide +kernel
    have plainly := (replace_whole_or_not_at_all t _ (Utf8.encode "new")).2.2
      (Path.ofString "out/.a.au3.tmp") _ _ _ _ (by decide +kernel) aside leads free
      (by simp [stood])
    exact ⟨t, t', u, e, directory, name, entries, replaced, found, missing, stays, kept, aside,
      leads, plainly⟩
  · rw [stays] at refused
    cases refused

/-! ## Places apart from the file -/

/-- Neither the path nor its sibling is at this place. -/
def Apart (t : FileTree) (p : Path) (place : Place) : Prop :=
  ¬ t.Opens p place ∧ ¬ t.Aside p place

section Apart

variable {t t' : FileTree} {p : Path} {content : Bytes}

theorem Spares.file {place : Place} (h : t.Spares p place t')
    (stands : t.entry? place = some (.file content)) :
    t'.entry? place = some (.file content) := by
  rcases h with same | ⟨absent, -⟩
  · rw [same, stands]
  · simp [stands] at absent

theorem Keeps.of_spares {spared spared' : Place → Prop} (h : t.Keeps spared' t')
    (spares : ∀ q, spared q → t.Spares p q t') : t.Keeps spared t' :=
  { h with file := fun q _ away stood => (spares q away).file stood }

theorem apart_of_replaced (h : t.replace p content = (.ok (), t')) :
    t'.read p = .ok content ∧ ∀ q, t'.Apart p q → t.Spares p q t' := by
  obtain ⟨outer, last, leads, stands, -⟩ := replace_ok h
  obtain ⟨directory, name, -, aside, found, -, spared⟩ := spares_of_replaced h
  have same : outer ++ [last] = directory ++ [name] := by
    have both := (leads.find stands).symm.trans found
    exact (Prod.mk.inj (Except.ok.inj both)).1
  refine ⟨read_of_replaced h, ?_⟩
  rintro q ⟨closed, away⟩
  refine spared q ?_ ?_
  · rintro rfl
    exact closed ⟨outer, last, leads, same.symm⟩
  · rintro rfl
    exact away aside

theorem apart_of_refused {e : DeskError} (h : t.replace p content = (.error e, t')) (q : Place)
    (away : ¬ t'.Aside p q) : t.Spares p q t' :=
  (spares_of_refused h q).resolve_right fun gone => away gone.1

end Apart

end RemoteDesk.FileTree
