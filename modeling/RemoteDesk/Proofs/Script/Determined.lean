import Mathlib.Data.List.Basic
import Mathlib.Tactic.ByContra
import RemoteDesk.Proofs.Registry
import RemoteDesk.Proofs.Script.Key
import RemoteDesk.Proofs.Script.Sections
import RemoteDesk.Proofs.Script.Typing

/-! # What a script was built from

An escaped script is one text without lengths or marks between its parts, and still it falls apart
in one way only. The index ends before a parenthesis and each id before a line feed; a credential ends
where its literal is closed; a call starts with an indented line and the closing part does not. What
is left are the bodies. A fragment ends where the heading of the next subtask starts, as long as no
line of a fragment looks like such a heading.
-/

namespace RemoteDesk.Script

theorem typing_inj {value other : String} {key : Key} (same : typing value key = typing other key) :
    value = other := by
  have injective : Function.Injective Stroke.types := fun _ _ => Stroke.types.inj
  exact String.toList_inj.mp (List.map_injective_iff.mpr injective (List.append_cancel_right same))

/-! ## Calls -/

/-- What stands before the id in the calls of a subtask. -/
def callHead : List Char :=
  '\n' :: (callMargin ++ separatorLine ++ callMargin ++ headerStem).toList

theorem flatten_sectionLines (id : String) :
    (sectionLines id).flatten =
      callHead ++ (id.toList ++ '\n' :: (callLine id ++ callMargin ++ noteLine).toList) := by
  have feed : "\n".toList = ['\n'] := by decide
  rw [sectionLines_eq, callHead]
  simp only [feed, List.flatten_cons, List.flatten_nil, String.toList_append, List.append_assoc,
    List.append_nil, List.cons_append, List.nil_append]

theorem toList_callSection {c : Catalog} (valid : ∀ s ∈ c, isSubtaskId s.1) :
    (callSection c).toList = c.flatMap fun s => (sectionLines s.1).flatten := by
  rw [← Text.flatten_lines (callSection c).toList, lines_callSection valid, List.flatMap_def,
    List.flatten_flatten, List.map_map]
  rfl

/-- An id ends with the line that it stands on. -/
theorem flatten_sectionLines_inj {id other : String} (valid : isSubtaskId id)
    (valid' : isSubtaskId other) {rest rest' : List Char}
    (same : (sectionLines id).flatten ++ rest = (sectionLines other).flatten ++ rest') :
    id = other ∧ rest = rest' := by
  rw [flatten_sectionLines, flatten_sectionLines] at same
  simp only [List.append_assoc, List.cons_append, List.append_cancel_left_eq] at same
  obtain ⟨ids, rests⟩ := Text.row_inj (fun _ => isIdPart_of_mem valid)
    (fun _ => isIdPart_of_mem valid') (by decide) (by decide) same
  obtain rfl := String.toList_inj.mp ids
  exact ⟨rfl, List.append_cancel_left (List.cons.inj rests).2⟩

/-- A call has no second blank line at its start. -/
theorem flatten_sectionLines_ne (id : String) (rest later : List Char) :
    (sectionLines id).flatten ++ rest ≠ '\n' :: '\n' :: later := by
  have margin : callMargin.toList = ' ' :: "       ".toList := by decide
  rw [flatten_sectionLines, callHead, String.append_assoc, String.append_assoc,
    String.toList_append, margin]
  intro same
  have second := (List.cons.inj (List.cons.inj same).2).1
  exact absurd second (by decide)

/-- Calls end where two blank lines follow each other. -/
theorem callSection_inj {c d : Catalog} (valid : ∀ s ∈ c, isSubtaskId s.1)
    (valid' : ∀ s ∈ d, isSubtaskId s.1) {rest rest' : List Char}
    (same : (callSection c).toList ++ '\n' :: '\n' :: rest =
      (callSection d).toList ++ '\n' :: '\n' :: rest') :
    c.names = d.names ∧ rest = rest' := by
  rw [toList_callSection valid, toList_callSection valid'] at same
  induction c generalizing d with
  | nil =>
      cases d with
      | nil => exact ⟨rfl, (List.cons.inj (List.cons.inj same).2).2⟩
      | cons t others =>
          rw [List.flatMap_cons, List.append_assoc] at same
          exact absurd same.symm (flatten_sectionLines_ne _ _ _)
  | cons s more ih =>
      cases d with
      | nil =>
          rw [List.flatMap_cons, List.append_assoc] at same
          exact absurd same (flatten_sectionLines_ne _ _ _)
      | cons t others =>
          simp only [List.flatMap_cons, List.append_assoc] at same
          obtain ⟨first, same⟩ := flatten_sectionLines_inj (valid s List.mem_cons_self)
            (valid' t List.mem_cons_self) same
          obtain ⟨names, rests⟩ := ih (fun x member => valid x (List.mem_cons_of_mem _ member))
            (fun x member => valid' x (List.mem_cons_of_mem _ member)) same
          refine ⟨?_, rests⟩
          rw [Catalog.names, Catalog.names, List.map_cons, List.map_cons, first]
          exact congrArg (t.1 :: ·) names

/-! ## Bodies -/

/-- Some line of a fragment starts like the header line of a subtask. -/
def HasHeader (fragment : String) : Prop :=
  ∃ line ∈ Text.lines fragment.toList, headerStem.toList <+: line

/-- What stands before the id in the heading of a subtask. -/
def headingStem : List Char :=
  '\n' :: (separatorLine.toList ++ headerStem.toList)

theorem hasHeader_of_headingStem {fragment : String} {before after : List Char}
    (same : fragment.toList = before ++ (headingStem ++ after)) : HasHeader fragment := by
  have split : fragment.toList =
      before ++ '\n' :: separatorLine.toList ++ (headerStem.toList ++ after) := by
    rw [same, headingStem]
    simp only [List.append_assoc, List.cons_append]
  have ended : Text.Ended (before ++ '\n' :: separatorLine.toList) := by
    refine .inr ?_
    rw [List.getLast?_append]
    rfl
  obtain ⟨line, others, first, starts⟩ :=
    @Text.lines_of_start headerStem.toList (by decide) (by decide) after
  refine ⟨line, ?_, starts⟩
  rw [split, Text.lines_append ended, first]
  exact List.mem_append_right _ List.mem_cons_self

/-- Two places in a text at which a heading starts are apart by a whole heading. -/
theorem headingStem_unbordered :
    ∀ n < headingStem.length, n ≠ 0 → ¬ headingStem.drop n <+: headingStem := by
  decide +kernel

/-- Without a header line of its own a fragment ends at the next heading. -/
theorem no_overlap {fragment other : String} (plain : ¬ HasHeader other)
    {more rest rest' : List Char} (longer : other.toList = fragment.toList ++ more)
    (same : headingStem ++ rest = more ++ (headingStem ++ rest')) : more = [] := by
  rcases List.append_eq_append_iff.mp same with ⟨after, all, -⟩ | ⟨border, stem, rests⟩
  · exact absurd (hasHeader_of_headingStem (longer.trans (congrArg _ all))) plain
  · -- `border` ends the first heading and, as long as it goes, starts the second.
    by_contra nonempty
    have cut : headingStem.drop more.length = border := by
      rw [stem, List.drop_left]
    have starts : border <+: headingStem := by
      refine List.prefix_of_prefix_length_le ⟨rest, rests.symm⟩ ⟨rest', rfl⟩ ?_
      rw [stem, List.length_append]
      omega
    have short : more.length < headingStem.length ∨ border = [] := by
      rw [stem, List.length_append]
      cases border with
      | nil => exact .inr rfl
      | cons c others => exact .inl (by simp)
    rcases short with short | rfl
    · exact headingStem_unbordered more.length short (by simpa using nonempty) (cut ▸ starts)
    · rw [List.append_nil] at stem
      have split : other.toList = fragment.toList ++ (headingStem ++ []) := by
        rw [longer, stem, List.append_nil]
      exact plain (hasHeader_of_headingStem split)

theorem fragment_inj {fragment other : String} (plain : ¬ HasHeader fragment)
    (plain' : ¬ HasHeader other) {rest rest' : List Char}
    (same : fragment.toList ++ (headingStem ++ rest) = other.toList ++ (headingStem ++ rest')) :
    fragment = other := by
  apply String.toList_inj.mp
  rcases List.append_eq_append_iff.mp same with ⟨more, longer, tails⟩ | ⟨more, longer, tails⟩
  · rw [longer, no_overlap plain' longer tails, List.append_nil]
  · rw [longer, no_overlap plain longer tails, List.append_nil]

/-- The fixed text between the heading of a subtask and its fragment. -/
def bodyHead (id : String) : List Char :=
  (id ++ "\n" ++ parentLine ++ "\n" ++ noteLine).toList

theorem toList_body (id fragment : String) :
    (body id fragment).toList = headingStem ++ (bodyHead id ++ fragment.toList) := by
  have feed : "\n".toList = ['\n'] := by decide
  simp only [body, heading, headingStem, bodyHead, String.toList_append, feed, List.append_assoc,
    List.cons_append, List.nil_append]

/-- Under the same ids, bodies without header lines in their fragments are bodies of the same
    fragments. -/
theorem bodies_inj {c d : Catalog} (names : c.names = d.names)
    (plain : ∀ s ∈ c, ¬ HasHeader s.2) (plain' : ∀ s ∈ d, ¬ HasHeader s.2)
    (same : (bodies c).toList = (bodies d).toList) : c = d := by
  induction c generalizing d with
  | nil =>
      cases d with
      | nil => rfl
      | cons t others => cases names
  | cons s more ih =>
      cases d with
      | nil => cases names
      | cons t others =>
          obtain ⟨id, fragment⟩ := s
          obtain ⟨other, fragment'⟩ := t
          obtain ⟨rfl, later⟩ : id = other ∧ Catalog.names more = Catalog.names others :=
            List.cons.inj names
          simp only [bodies_cons, String.toList_append, toList_body, List.append_assoc,
            List.append_cancel_left_eq] at same
          have fragments : fragment = fragment' := by
            cases more with
            | nil =>
                obtain rfl : others = [] := by simpa [Catalog.names] using later.symm
                exact String.toList_inj.mp (List.append_cancel_right same)
            | cons s' more' =>
                cases others with
                | nil => cases later
                | cons t' others' =>
                    obtain ⟨id', next⟩ := s'
                    obtain ⟨other', next'⟩ := t'
                    simp only [bodies_cons, String.toList_append, toList_body, List.append_assoc]
                      at same
                    exact fragment_inj (plain _ List.mem_cons_self) (plain' _ List.mem_cons_self)
                      same
          subst fragments
          rw [ih later (fun x member => plain x (List.mem_cons_of_mem _ member))
            (fun x member => plain' x (List.mem_cons_of_mem _ member))
            (List.append_cancel_left same)]

/-! ## Scripts -/

/-- The index ends where the first call has its parentheses. -/
theorem lead_inj {index other : UInt32} {rest rest' : List Char}
    (same : (lead index).toList ++ rest = (lead other).toList ++ rest') :
    index = other ∧ rest = rest' := by
  have parens : "()\n\n".toList = '(' :: ")\n\n".toList := by decide
  have keys : taskKey index = taskKey other := by
    simp only [lead, openHead, declaration, String.toList_append, List.append_assoc, parens,
      List.cons_append, List.append_cancel_left_eq] at same
    exact String.toList_inj.mp (Text.row_inj (fun _ => isIdPart_of_mem_taskKey)
      (fun _ => isIdPart_of_mem_taskKey) (by decide) (by decide) same).1
  obtain rfl := taskKey_inj.mp keys
  exact ⟨rfl, List.append_cancel_left same⟩

theorem entries_inj {c d : Credentials} {rest rest' : List Char}
    (same : (entries c).toList ++ rest = (entries d).toList ++ rest') : c = d ∧ rest = rest' := by
  have read := congrArg (readEntries 3) same
  rw [readEntries_entries, readEntries_entries] at read
  simp only [Option.some.injEq, Prod.mk.injEq, List.cons.injEq, and_true] at read
  obtain ⟨⟨computer, username, password⟩, rests⟩ := read
  obtain ⟨c₁, c₂, c₃⟩ := c
  obtain rfl : c₁ = d.computer := typing_inj computer
  obtain rfl : c₂ = d.username := typing_inj username
  obtain rfl : c₃ = d.password := typing_inj password
  exact ⟨rfl, rests⟩

theorem remainder_inj {c d : Catalog} (valid : ∀ s ∈ c, isSubtaskId s.1)
    (valid' : ∀ s ∈ d, isSubtaskId s.1) (same : (remainder c).toList = (remainder d).toList) :
    c.names = d.names ∧ (bodies c).toList = (bodies d).toList := by
  obtain ⟨closing, close⟩ : ∃ closing, closeSequence.toList = '\n' :: '\n' :: closing := by
    have blank : ("" ++ "\n").toList = ['\n'] := by decide
    rw [closeSequence, Text.unlines_cons, Text.unlines_cons]
    simp only [String.toList_append, blank, List.cons_append, List.nil_append]
    exact ⟨_, rfl⟩
  simp only [remainder, String.toList_append, List.append_assoc, List.append_cancel_left_eq, close,
    List.cons_append] at same
  obtain ⟨names, rests⟩ := callSection_inj valid valid' same
  exact ⟨names, List.append_cancel_left rests⟩

/-- Two escaped scripts with one text have one index, one triple of credentials, one row of ids and
    one text of bodies. If besides no fragment has a line that starts like a header line, they have
    one registry, fragment by fragment. -/
theorem escaped_script_determines {index other : UInt32} {c d : Credentials} {r s : Registry}
    (filled : r.Filled) (filled' : s.Filled)
    (same : (assemble index c r.subtasks true).text = (assemble other d s.subtasks true).text) :
    index = other ∧ c.computer = d.computer ∧ c.username = d.username ∧ c.password = d.password ∧
      r.ids = s.ids ∧ bodies r.subtasks = bodies s.subtasks ∧
      ((∀ x ∈ r.subtasks, ¬ HasHeader x.2) → (∀ x ∈ s.subtasks, ¬ HasHeader x.2) →
        r.subtasks = s.subtasks) := by
  have texts := congrArg String.toList same
  simp only [text_assemble, String.toList_append, List.append_assoc] at texts
  obtain ⟨rfl, behind⟩ := lead_inj texts
  obtain ⟨rfl, last⟩ := entries_inj behind
  obtain ⟨names, parts⟩ := remainder_inj filled.sound.valid filled'.sound.valid last
  exact ⟨rfl, rfl, rfl, rfl, names, String.toList_inj.mp parts,
    fun plain plain' => bodies_inj names plain plain' parts⟩

/-- Two rows of insertions whose scripts are one, for credentials that spell a key, a quote and a
    line of their own. -/
theorem escaped_script_determines_after_replacement :
    let c : Credentials := ⟨"10.0.0.5", "a!\x7bENTER\x7d", "\"\n    Send(\"#r\")"⟩
    ∃ r s : Registry,
      (Registry.empty.insert "Sub_1" "; old").bind (·.insert "Sub_1" "; body\n") = .ok r ∧
      Registry.empty.insert "Sub_1" "; body\n" = .ok s ∧ r.Filled ∧ s.Filled ∧
      (assemble 7 c r.subtasks true).text = (assemble 7 c s.subtasks true).text ∧
      r.ids = s.ids ∧ bodies r.subtasks = bodies s.subtasks ∧ r.subtasks = s.subtasks := by
  intro c
  have once : Registry.empty.insert "Sub_1" "; old" = .ok ⟨[("Sub_1", "; old")]⟩ := by rfl
  have again : Registry.insert ⟨[("Sub_1", "; old")]⟩ "Sub_1" "; body\n" =
      .ok ⟨[("Sub_1", "; body\n")]⟩ := by rfl
  have short : Registry.empty.insert "Sub_1" "; body\n" = .ok ⟨[("Sub_1", "; body\n")]⟩ := by rfl
  have filled : Registry.Filled ⟨[("Sub_1", "; body\n")]⟩ := .insert again (.insert once .empty)
  have filled' : Registry.Filled ⟨[("Sub_1", "; body\n")]⟩ := .insert short .empty
  have plain : ∀ x ∈ [("Sub_1", "; body\n")], ¬ HasHeader x.2 := by
    unfold HasHeader
    decide
  obtain ⟨-, -, -, -, ids, parts, fragments⟩ :=
    @escaped_script_determines 7 7 c c _ _ filled filled' rfl
  refine ⟨_, _, ?_, short, filled, filled', rfl, ids, parts, fragments plain plain⟩
  rw [once]
  exact again

end RemoteDesk.Script
