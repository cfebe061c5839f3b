import RemoteDesk.Proofs.Text.Lines
import RemoteDesk.Proofs.Text.Reading
import RemoteDesk.Script.Assembly

/-! # The sections of a script that name subtasks

Calls and bodies are written subtask by subtask, so both sections of a longer list are those of its
parts, one after the other. An id is a function name and breaks no line: each subtask takes up five
lines of the call section, and only one of them is a call.
-/

namespace RemoteDesk

theorem Text.Cut.cons {line : List Char} {rest : List (List Char)}
    (h : ∃ body, line = body ++ ['\n'] ∧ '\n' ∉ body) (cut : Text.Cut rest) :
    Text.Cut (line :: rest) := by
  obtain ⟨body, rfl, plain⟩ := h
  exact .ended plain cut

namespace Script

/-! ## Ids -/

theorem isSubtaskId_start {id : String} (h : isSubtaskId id) :
    ∃ c rest, id.toList = c :: rest ∧ isIdStart c ∧ rest.all isIdPart := by
  unfold isSubtaskId at h
  cases same : id.toList with
  | nil => simp [same] at h
  | cons c rest => exact ⟨c, rest, rfl, by simpa [same] using h⟩

theorem isIdPart_of_mem {id : String} (h : isSubtaskId id) {c : Char} (member : c ∈ id.toList) :
    isIdPart c := by
  obtain ⟨first, rest, same, start, parts⟩ := isSubtaskId_start h
  rw [same] at member
  rcases List.mem_cons.mp member with rfl | later
  · unfold isIdStart at start
    unfold isIdPart Char.isAlphanum
    cases alpha : c.isAlpha with
    | true => rfl
    | false =>
        rw [alpha, Bool.false_or] at start
        rw [start, Bool.or_true]
  · exact List.all_eq_true.mp parts c later

/-- An id breaks no line. -/
theorem plain_of_isSubtaskId {id : String} (h : isSubtaskId id) : '\n' ∉ id.toList := by
  obtain ⟨c, rest, same, start, parts⟩ := isSubtaskId_start h
  rw [same]
  intro member
  rcases List.mem_cons.mp member with rfl | later
  · exact absurd start (by decide)
  · exact absurd (List.all_eq_true.mp parts _ later) (by decide)

/-- An id has no white space. -/
theorem not_blank_of_isIdPart {c : Char} (h : isIdPart c) : Text.isBlankChar c = false := by
  have upper : c.isUpper = decide ('A'.val ≤ c.val ∧ c.val ≤ 'Z'.val) := rfl
  have lower : c.isLower = (decide ('a'.val ≤ c.val) && decide (c.val ≤ 'z'.val)) := rfl
  have digit : c.isDigit = (decide ('0'.val ≤ c.val) && decide (c.val ≤ '9'.val)) := rfl
  have named : isIdPart c = (c.isUpper || c.isLower || c.isDigit || c == '_') := rfl
  have code : (65 ≤ c.toNat ∧ c.toNat ≤ 90) ∨ (97 ≤ c.toNat ∧ c.toNat ≤ 122) ∨
      (48 ≤ c.toNat ∧ c.toNat ≤ 57) ∨ c.toNat = 95 := by
    simp only [named, upper, lower, digit, Bool.or_eq_true, Bool.and_eq_true, decide_eq_true_eq,
      beq_iff_eq, UInt32.le_iff_toNat_le] at h
    rcases h with ((upper | lower) | digit) | rfl
    · exact .inl upper
    · exact .inr (.inl lower)
    · exact .inr (.inr (.inl digit))
    · decide
  simp only [Text.isBlankChar, Bool.or_eq_false_iff, Bool.and_eq_false_iff, decide_eq_false_iff_not,
    beq_eq_false_iff_ne]
  omega

/-! ## Parts of a section -/

theorem bodies_append (c d : Catalog) : bodies (c ++ d) = bodies c ++ bodies d := by
  simp only [bodies, List.map_append, String.join_append]

theorem bodies_cons (id fragment : String) (c : Catalog) :
    bodies ((id, fragment) :: c) = body id fragment ++ bodies c := by
  simp only [bodies, List.map_cons, String.join_cons]

/-- The lines of one call, before they are indented. -/
def callSiteLines (id : String) : List (List Char) :=
  ["\n".toList, separatorLine.toList, (headerStem ++ id ++ "\n").toList, (id ++ "()\n").toList,
    noteLine.toList]

theorem flatten_callSiteLines (id : String) :
    (callSiteLines id).flatten = (callSite id).toList := by
  simp only [callSiteLines, callSite, heading, List.flatten_cons, List.flatten_nil,
    String.toList_append, List.append_assoc, List.append_nil]

theorem cut_callSiteLines {id : String} (h : isSubtaskId id) : Text.Cut (callSiteLines id) := by
  have plain := plain_of_isSubtaskId h
  have stem : '\n' ∉ headerStem.toList := by decide
  have parens : "()\n".toList = ['(', ')'] ++ ['\n'] := by decide
  have feed : "\n".toList = ['\n'] := by decide
  refine .cons ⟨[], feed, by simp⟩ (.cons ⟨separatorLine.toList.dropLast, by decide, by decide⟩
    (.cons ⟨headerStem.toList ++ id.toList, ?_, ?_⟩ (.cons ⟨id.toList ++ ['(', ')'], ?_, ?_⟩
      (.cons ⟨noteLine.toList.dropLast, by decide, by decide⟩ .nil))))
  · rw [String.toList_append, String.toList_append, feed]
  · simp [plain, stem]
  · rw [String.toList_append, parens, List.append_assoc]
  · simp [plain]

theorem ended_callSite (id : String) : Text.Ended (callSite id).toList := by
  refine .inr ?_
  rw [callSite, String.toList_append, List.getLast?_append]
  rfl

/-! ## Calls -/

/-- The call of a subtask as a line of the call section. -/
def callLine (id : String) : String :=
  callMargin ++ id ++ "()\n"

/-- The lines of one subtask in the call section. -/
def sectionLines (id : String) : List (List Char) :=
  (callSiteLines id).map (Text.indentLine callMargin.toList)

theorem lines_callSites {c : Catalog} (h : ∀ s ∈ c, isSubtaskId s.1) :
    Text.lines (callSites c).toList = c.flatMap fun s => callSiteLines s.1 := by
  induction c with
  | nil => rfl
  | cons s rest ih =>
      have cut := cut_callSiteLines (h s List.mem_cons_self)
      have later : ∀ s ∈ rest, isSubtaskId s.1 :=
        fun s member => h s (List.mem_cons_of_mem _ member)
      simp only [callSites, List.map_cons, String.join_cons, String.toList_append]
      rw [Text.lines_append (ended_callSite s.1), ← flatten_callSiteLines, cut.lines_flatten,
        List.flatMap_cons]
      exact congrArg (callSiteLines s.1 ++ ·) (ih later)

theorem lines_callSection {c : Catalog} (h : ∀ s ∈ c, isSubtaskId s.1) :
    Text.lines (callSection c).toList = c.flatMap fun s => sectionLines s.1 := by
  rw [callSection, Text.lines_indent _ _ (by decide), lines_callSites h, List.map_flatMap]
  rfl

theorem sectionLines_eq (id : String) :
    sectionLines id = ["\n".toList, callMargin.toList ++ separatorLine.toList,
      callMargin.toList ++ (headerStem ++ id ++ "\n").toList, (callLine id).toList,
      callMargin.toList ++ noteLine.toList] := by
  have feed : Text.indentLine callMargin.toList "\n".toList = "\n".toList := by decide
  have comment {line : List Char} (h : ';' ∈ line) :
      Text.indentLine callMargin.toList line = callMargin.toList ++ line :=
    Text.indentLine_of_visible h (by decide)
  have call : Text.indentLine callMargin.toList (id ++ "()\n").toList = (callLine id).toList := by
    have paren : '(' ∈ (id ++ "()\n").toList := by
      rw [String.toList_append]
      exact List.mem_append_right _ (by decide)
    rw [Text.indentLine_of_visible paren (by decide), callLine, String.append_assoc,
      ← String.toList_append]
  have header : ';' ∈ (headerStem ++ id ++ "\n").toList := by
    rw [String.append_assoc, String.toList_append]
    exact List.mem_append_left _ (by decide)
  simp only [sectionLines, callSiteLines, List.map_cons, List.map_nil, feed, call, comment header,
    comment (show ';' ∈ separatorLine.toList by decide),
    comment (show ';' ∈ noteLine.toList by decide)]

/-- Of the lines of a subtask one is its call, and none is the call of another subtask. -/
theorem count_sectionLines {id : String} (h : isSubtaskId id) (other : String) :
    (sectionLines other).count (callLine id).toList = if other = id then 1 else 0 := by
  obtain ⟨c, rest, same, start, -⟩ := isSubtaskId_start h
  have call : (callLine id).toList = callMargin.toList ++ (c :: rest ++ "()\n".toList) := by
    simp only [callLine, String.toList_append, same, List.append_assoc]
  have comment {line : List Char} (h : line.head? = some ';') :
      callMargin.toList ++ line ≠ (callLine id).toList := by
    rw [call]
    intro equal
    rw [List.append_cancel_left equal] at h
    obtain rfl : c = ';' := Option.some.inj h
    exact absurd start (by decide)
  have feed : "\n".toList ≠ (callLine id).toList := by
    rw [call]
    intro equal
    have first := congrArg List.head? equal
    exact absurd first (by simp [callMargin])
  have own : (callLine other).toList = (callLine id).toList ↔ other = id := by
    simp [callLine, String.toList_inj]
  have header : (headerStem ++ other ++ "\n").toList.head? = some ';' := by
    rw [String.append_assoc, String.toList_append]
    rfl
  rw [sectionLines_eq, List.count_cons_of_ne feed, List.count_cons_of_ne (comment rfl),
    List.count_cons_of_ne (comment header), List.count_cons, List.count_cons_of_ne (comment rfl),
    List.count_nil, Nat.zero_add]
  simp only [beq_iff_eq, own]

/-- Every subtask is called once. -/
theorem count_callSection {c : Catalog} (valid : ∀ s ∈ c, isSubtaskId s.1) {id : String}
    (h : isSubtaskId id) :
    (Text.lines (callSection c).toList).count (callLine id).toList = c.names.count id := by
  rw [lines_callSection valid]
  induction c with
  | nil => rfl
  | cons s rest ih =>
      rw [List.flatMap_cons, List.count_append, count_sectionLines h,
        ih fun s member => valid s (List.mem_cons_of_mem _ member)]
      simp only [Catalog.names, List.map_cons, List.count_cons, beq_iff_eq, Nat.add_comm]

/-! ## Reading calls -/

/-- The id that a line of the call section calls. -/
def readCall? (line : List Char) : Option String := do
  let call ← callMargin.toList.isPrefixOf? line
  let id := String.ofList (call.takeWhile isIdPart)
  if isSubtaskId id ∧ call = (id ++ "()\n").toList then some id else none

/-- The ids that a call section calls, in order. -/
def calls (text : String) : List String :=
  (Text.lines text.toList).filterMap readCall?

theorem readCall?_callLine {id : String} (h : isSubtaskId id) :
    readCall? (callLine id).toList = some id := by
  have stops : "()\n".toList.takeWhile isIdPart = [] := by decide
  have taken : ((id ++ "()\n").toList).takeWhile isIdPart = id.toList := by
    rw [String.toList_append, List.takeWhile_append_of_pos fun c => isIdPart_of_mem h, stops,
      List.append_nil]
  rw [readCall?, callLine, String.append_assoc, String.toList_append, Text.isPrefixOf?_append]
  simp only [Option.bind_eq_bind, Option.bind_some, taken, String.ofList_toList]
  exact if_pos ⟨h, trivial⟩

theorem readCall?_comment {line : List Char} (h : line.head? = some ';') :
    readCall? (callMargin.toList ++ line) = none := by
  obtain ⟨rest, rfl⟩ := List.head?_eq_some_iff.mp h
  have nothing : (';' :: rest).takeWhile isIdPart = [] := rfl
  rw [readCall?, Text.isPrefixOf?_append]
  simp only [Option.bind_eq_bind, Option.bind_some, nothing]
  exact if_neg fun id => absurd id.1 (by decide)

theorem readCall?_sectionLines {id : String} (h : isSubtaskId id) :
    (sectionLines id).filterMap readCall? = [id] := by
  have feed : readCall? "\n".toList = none := by decide
  have header : (headerStem ++ id ++ "\n").toList.head? = some ';' := by
    rw [String.append_assoc, String.toList_append]
    rfl
  rw [sectionLines_eq, List.filterMap_cons_none feed,
    List.filterMap_cons_none (readCall?_comment rfl),
    List.filterMap_cons_none (readCall?_comment header),
    List.filterMap_cons_some (readCall?_callLine h),
    List.filterMap_cons_none (readCall?_comment rfl), List.filterMap_nil]

/-- A call section calls its subtasks and nothing else. -/
theorem calls_callSection {c : Catalog} (valid : ∀ s ∈ c, isSubtaskId s.1) :
    calls (callSection c) = c.names := by
  rw [calls, lines_callSection valid, List.filterMap_flatMap]
  induction c with
  | nil => rfl
  | cons s rest ih =>
      rw [List.flatMap_cons, readCall?_sectionLines (valid s List.mem_cons_self),
        ih fun t member => valid t (List.mem_cons_of_mem _ member)]
      rfl

end Script

end RemoteDesk
