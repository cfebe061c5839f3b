import Mathlib.Data.List.Basic
import Mathlib.Data.List.TakeWhile
import RemoteDesk.Proofs.Registry
import RemoteDesk.Proofs.Script.Sections

/-! # The two projections of a row of subtasks

Call sites and bodies are read line by line. A line that ends in parentheses is a call, a line that
starts with the stem of a header names a subtask, and the lines from one header to the next are the
section of a subtask. The calls, the headers of the call sites and the headers of the bodies all
name the ids in order, and the sections of the bodies hold the fragments.

Fragments are arbitrary, so a fragment may end within a line. What follows it starts with a line
feed: that ends its last line or is a blank line of its own, and either way no line of the fragment
turns into a header.
-/

namespace RemoteDesk

namespace Text

/-- A line without the line feed that ends it. -/
def bare (line : List Char) : List Char :=
  line.takeWhile (· ≠ '\n')

section Plain

variable {line : List Char} (plain : '\n' ∉ line)

include plain

theorem kept_of_plain : ∀ c ∈ line, decide (c ≠ '\n') := by
  intro c member
  refine decide_eq_true ?_
  rintro rfl
  exact plain member

theorem bare_append (rest : List Char) : bare (line ++ '\n' :: rest) = line := by
  rw [bare, List.takeWhile_append_of_pos (kept_of_plain plain)]
  simp

theorem bare_of_plain : bare line = line :=
  List.takeWhile_eq_self_iff.mpr (kept_of_plain plain)

end Plain

/-- A line feed at the end of a text ends its last line, or it is a line of its own. -/
theorem bare_of_mem_feed {ls : List (List Char)} (cut : Cut ls) {line : List Char}
    (member : line ∈ lines (ls.flatten ++ ['\n'])) :
    bare line = [] ∨ ∃ old ∈ ls, bare line = bare old := by
  induction cut with
  | nil =>
      obtain rfl : line = ['\n'] := by simpa [lines] using member
      exact .inl rfl
  | @unended last nonempty plain =>
      rw [List.flatten_singleton, lines_of_line plain, List.mem_singleton] at member
      refine .inr ⟨last, List.mem_singleton_self last, ?_⟩
      rw [member, bare_append plain, bare_of_plain plain]
  | @ended first rest plain _ ih =>
      have ended : Ended (first ++ ['\n']) := .inr (by simp)
      rw [List.flatten_cons, List.append_assoc, lines_append ended, lines_of_line plain,
        List.singleton_append, List.mem_cons] at member
      rcases member with rfl | later
      · exact .inr ⟨_, List.mem_cons_self, rfl⟩
      · rcases ih later with blank | ⟨old, known, same⟩
        · exact .inl blank
        · exact .inr ⟨old, List.mem_cons_of_mem _ known, same⟩

end Text

namespace Script

/-! ## Reading lines -/

/-- What a line calls: what stands before the parentheses at its end. -/
def called? (line : List Char) : Option String :=
  ("()".toList.isSuffixOf? (Text.bare line)).map String.ofList

/-- What the lines of a text call, in order. -/
def calledIds (text : String) : List String :=
  (Text.lines text.toList).filterMap called?

/-- What a header line names, whatever white space stands before it. -/
def headed? (line : List Char) : Option String :=
  (headerStem.toList.isPrefixOf? (Text.trimStart (Text.bare line))).map String.ofList

/-- What the header lines of a text name, in order. -/
def headedIds (text : String) : List String :=
  (Text.lines text.toList).filterMap headed?

theorem called?_call {name : List Char} (plain : '\n' ∉ name) :
    called? (name ++ "()\n".toList) = some (String.ofList name) := by
  have parens : "()\n".toList = "()".toList ++ ['\n'] := by decide
  have unbroken : '\n' ∉ name ++ "()".toList := List.not_mem_append plain (by decide)
  rw [called?, parens, ← List.append_assoc, Text.bare_append unbroken,
    List.isSuffixOf?_eq_some_iff_append_eq.mpr rfl]
  rfl

/-- A line that ends in anything but a parenthesis calls nothing. -/
theorem called?_of_last {line : List Char} {c : Char} (plain : '\n' ∉ line ++ [c])
    (other : c ≠ ')') : called? (line ++ [c, '\n']) = none := by
  have split : line ++ [c, '\n'] = (line ++ [c]) ++ ['\n'] := by simp
  have parens : "()".toList = ['(', ')'] := by decide
  rw [called?, split, Text.bare_append plain, Option.map_eq_none_iff,
    Option.eq_none_iff_forall_ne_some]
  intro start ends
  have same := congrArg List.getLast? (List.append_eq_of_isSuffixOf?_eq_some ends)
  have last : ')' = c := by simpa [parens] using same
  exact other last.symm

/-- White space before a line. -/
def IsMargin (margin : List Char) : Prop :=
  ∀ c ∈ margin, Text.isBlankChar c ∧ c ≠ '\n'

theorem trimStart_margin {margin : List Char} (h : IsMargin margin) (line : List Char) :
    Text.trimStart (margin ++ line) = Text.trimStart line :=
  List.dropWhile_append_of_pos fun c member => (h c member).1

theorem IsMargin.plain {margin : List Char} (h : IsMargin margin) : '\n' ∉ margin :=
  fun member => (h _ member).2 rfl

theorem headed?_margin {margin : List Char} (h : IsMargin margin) (line : List Char) :
    headed? (margin ++ line) = headed? line := by
  rw [headed?, headed?, Text.bare, List.takeWhile_append_of_pos (Text.kept_of_plain h.plain),
    trimStart_margin h]
  rfl

theorem headed?_header {id : String} (valid : isSubtaskId id) :
    headed? (headerStem ++ id ++ "\n").toList = some id := by
  have feed : "\n".toList = ['\n'] := by decide
  have plain : '\n' ∉ headerStem.toList ++ id.toList :=
    List.not_mem_append (by decide) (plain_of_isSubtaskId valid)
  have shown : Text.trimStart (headerStem.toList ++ id.toList) =
      headerStem.toList ++ id.toList := by
    have visible : headerStem.toList = ';' :: headerStem.toList.tail := by decide
    rw [visible]
    rfl
  simp only [headed?, String.toList_append, feed]
  rw [Text.bare_append plain, shown, Text.isPrefixOf?_append, Option.map_some,
    String.ofList_toList]

theorem headed?_eq_none_iff {line : List Char} :
    headed? line = none ↔ ¬ headerStem.toList <+: Text.trimStart (Text.bare line) := by
  rw [headed?, Option.map_eq_none_iff, Option.eq_none_iff_forall_ne_some]
  constructor
  · rintro never ⟨rest, same⟩
    exact never rest (List.isPrefixOf?_eq_some_iff_append_eq.mpr same)
  · intro never rest starts
    exact never ⟨rest, List.append_eq_of_isPrefixOf?_eq_some starts⟩

/-- A header is a comment. -/
theorem headed?_of_not_mem {line : List Char} (bare : ';' ∉ line) : headed? line = none := by
  rw [headed?_eq_none_iff]
  intro starts
  have comment : ';' ∈ Text.trimStart (Text.bare line) := starts.subset (by decide)
  exact bare (List.takeWhile_subset _ (List.dropWhile_subset _ comment))

/-! ## Call sites -/

/-- The lines of one call site below a margin. -/
def siteLines (margin : List Char) (id : String) : List (List Char) :=
  ["\n".toList, margin ++ separatorLine.toList, margin ++ (headerStem ++ id ++ "\n").toList,
    margin ++ (id ++ "()\n").toList, margin ++ noteLine.toList]

section Site

variable {margin : List Char} (h : IsMargin margin) {id : String} (valid : isSubtaskId id)

include h valid

theorem called?_siteLines :
    (siteLines margin id).filterMap called? = [String.ofList (margin ++ id.toList)] := by
  have plain := plain_of_isSubtaskId valid
  have feed : "\n".toList = ['\n'] := by decide
  have comment {line : List Char} (before : List Char) (c : Char)
      (split : line = before ++ [c, '\n']) (unbroken : '\n' ∉ before ++ [c]) (other : c ≠ ')') :
      called? (margin ++ line) = none := by
    rw [split, ← List.append_assoc]
    refine called?_of_last ?_ other
    rw [List.append_assoc]
    exact List.not_mem_append h.plain unbroken
  have blank : called? "\n".toList = none := by decide
  have separator : called? (margin ++ separatorLine.toList) = none :=
    comment separatorLine.toList.dropLast.dropLast '#' (by decide) (by decide) (by decide)
  have note : called? (margin ++ noteLine.toList) = none :=
    comment noteLine.toList.dropLast.dropLast 'n' (by decide) (by decide) (by decide)
  have header : called? (margin ++ (headerStem ++ id ++ "\n").toList) = none := by
    obtain ⟨c, rest, same, -⟩ := isSubtaskId_start valid
    obtain ⟨init, last, ends⟩ : ∃ init last, id.toList = init ++ [last] := by
      rw [same]
      exact ⟨_, _, (List.dropLast_concat_getLast (List.cons_ne_nil c rest)).symm⟩
    have part : isIdPart last := isIdPart_of_mem valid (by simp [ends])
    refine comment (headerStem.toList ++ init) last ?_ ?_ ?_
    · simp only [String.toList_append, ends, feed, List.append_assoc, List.cons_append,
        List.nil_append]
    · rw [ends] at plain
      rw [List.append_assoc]
      exact List.not_mem_append (by decide) plain
    · rintro rfl
      exact absurd part (by decide)
  have call : called? (margin ++ (id ++ "()\n").toList) =
      some (String.ofList (margin ++ id.toList)) := by
    rw [String.toList_append, ← List.append_assoc]
    exact called?_call (List.not_mem_append h.plain plain)
  rw [siteLines, List.filterMap_cons_none blank, List.filterMap_cons_none separator,
    List.filterMap_cons_none header, List.filterMap_cons_some call,
    List.filterMap_cons_none note, List.filterMap_nil]

theorem headed?_siteLines : (siteLines margin id).filterMap headed? = [id] := by
  have blank : headed? "\n".toList = none := by decide
  have separator : headed? (margin ++ separatorLine.toList) = none := by
    rw [headed?_margin h]
    decide
  have header : headed? (margin ++ (headerStem ++ id ++ "\n").toList) = some id := by
    rw [headed?_margin h, headed?_header valid]
  have call : headed? (margin ++ (id ++ "()\n").toList) = none := by
    rw [headed?_margin h]
    refine headed?_of_not_mem ?_
    have letters : ';' ∉ id.toList := fun member =>
      absurd (isIdPart_of_mem valid member) (by decide)
    rw [String.toList_append]
    exact List.not_mem_append letters (by decide)
  have note : headed? (margin ++ noteLine.toList) = none := by
    rw [headed?_margin h]
    decide
  rw [siteLines, List.filterMap_cons_none blank, List.filterMap_cons_none separator,
    List.filterMap_cons_some header, List.filterMap_cons_none call,
    List.filterMap_cons_none note, List.filterMap_nil]

end Site

/-- What call sites below a margin call and name. -/
theorem read_siteLines {margin : List Char} (h : IsMargin margin) {c : Catalog}
    (valid : ∀ s ∈ c, isSubtaskId s.1) :
    (c.flatMap fun s => siteLines margin s.1).filterMap called? =
        c.names.map (fun id => String.ofList (margin ++ id.toList)) ∧
      (c.flatMap fun s => siteLines margin s.1).filterMap headed? = c.names := by
  induction c with
  | nil => exact ⟨rfl, rfl⟩
  | cons s rest ih =>
      have first := valid s List.mem_cons_self
      obtain ⟨calls, headers⟩ := ih fun t member => valid t (List.mem_cons_of_mem _ member)
      rw [List.flatMap_cons, List.filterMap_append, List.filterMap_append,
        called?_siteLines h first, headed?_siteLines h first, calls, headers]
      exact ⟨rfl, rfl⟩

theorem isMargin_callMargin : IsMargin callMargin.toList := by
  have spaces : callMargin.toList = List.replicate 8 ' ' := by decide
  intro c member
  rw [spaces] at member
  obtain rfl := List.eq_of_mem_replicate member
  decide

theorem read_callSites {c : Catalog} (valid : ∀ s ∈ c, isSubtaskId s.1) :
    calledIds (callSites c) = c.names ∧ headedIds (callSites c) = c.names := by
  have lines : Text.lines (callSites c).toList = c.flatMap fun s => siteLines [] s.1 :=
    lines_callSites valid
  have flush : IsMargin [] := List.forall_mem_nil _
  obtain ⟨calls, headers⟩ := read_siteLines flush valid
  rw [calledIds, headedIds, lines, calls, headers]
  simp

theorem read_callSection {c : Catalog} (valid : ∀ s ∈ c, isSubtaskId s.1) :
    calledIds (callSection c) = c.names.map (callMargin ++ ·) ∧
      headedIds (callSection c) = c.names := by
  have lines : Text.lines (callSection c).toList =
      c.flatMap fun s => siteLines callMargin.toList s.1 := by
    rw [lines_callSection valid]
    congr 1
    funext s
    rw [sectionLines_eq, siteLines, callLine]
    simp only [String.toList_append, List.append_assoc]
  obtain ⟨calls, headers⟩ := read_siteLines isMargin_callMargin valid
  rw [calledIds, headedIds, lines, calls, headers]
  exact ⟨by simp [← String.toList_append], rfl⟩

/-! ## Sections of the bodies -/

/-- The lines after each header, up to the next one. -/
def sections : List (List Char) → List (List (List Char))
  | [] => []
  | line :: rest =>
    if (headed? line).isSome then rest.takeWhile (fun l => (headed? l).isNone) :: sections rest
    else sections rest

/-- What a section holds below its first note. -/
def belowNote (lines : List (List Char)) : List Char :=
  (lines.dropWhile (· ≠ noteLine.toList)).tail.flatten

/-- What stands before the header of the next section. -/
def separation : List Char :=
  '\n' :: separatorLine.toList

/-- The fragments that sections hold: what is below the note, up to the separation if another
    section follows. -/
def readFragments : List (List (List Char)) → List (Option String)
  | [] => []
  | [last] => [some (String.ofList (belowNote last))]
  | lines :: more =>
    (separation.isSuffixOf? (belowNote lines)).map String.ofList :: readFragments more

/-- Some line of a fragment starts like a header, after white space. -/
def HasHeaderLine (fragment : String) : Prop :=
  ∃ line ∈ Text.lines fragment.toList, headerStem.toList <+: Text.trimStart line

/-- None of these lines is a header. -/
def Headless (ls : List (List Char)) : Prop :=
  ∀ line ∈ ls, headed? line = none

theorem Headless.append {ls more : List (List Char)} (h : Headless ls) (h' : Headless more) :
    Headless (ls ++ more) := by
  intro line member
  rcases List.mem_append.mp member with first | later
  · exact h line first
  · exact h' line later

section Sections

variable {block more : List (List Char)} (h : Headless block)

include h

theorem sections_headless : sections (block ++ more) = sections more := by
  induction block with
  | nil => rfl
  | cons line rest ih =>
      have first : (headed? line).isSome = false := by
        rw [h line List.mem_cons_self]
        rfl
      rw [List.cons_append, sections, if_neg (by simp [first]),
        ih fun l member => h l (List.mem_cons_of_mem _ member)]

/-- A section goes on to the next header, or to the end. -/
theorem sections_header {header : List Char} {id : String} (names : headed? header = some id)
    (next : ∀ line ∈ more.head?, (headed? line).isSome) :
    sections (header :: (block ++ more)) = block :: sections more := by
  have inside : ∀ line ∈ block, (headed? line).isNone := fun line member => by
    rw [h line member]
    rfl
  have stops : more.takeWhile (fun l => (headed? l).isNone) = [] := by
    cases more with
    | nil => rfl
    | cons line others =>
        refine List.takeWhile_cons_of_neg ?_
        have header := next line rfl
        cases same : headed? line with
        | none => simp [same] at header
        | some name => simp
  rw [sections, if_pos (by simp [names]), List.takeWhile_append_of_pos inside, stops,
    List.append_nil, sections_headless h]

end Sections

/-- The line feed that ends a line does not make it a header, nor keep it from being one. -/
theorem headless_lines {fragment : String} (plain : ¬ HasHeaderLine fragment) :
    Headless (Text.lines fragment.toList) := by
  intro line member
  rw [headed?_eq_none_iff]
  rintro ⟨rest, same⟩
  refine plain ⟨line, member, rest ++ line.dropWhile (· ≠ '\n'), ?_⟩
  have nonempty : (Text.bare line).dropWhile Text.isBlankChar ≠ [] := by
    rw [← Text.trimStart, ← same]
    exact List.append_ne_nil_of_left_ne_nil (by decide) rest
  have split : line = Text.bare line ++ line.dropWhile (· ≠ '\n') :=
    List.takeWhile_append_dropWhile.symm
  rw [← List.append_assoc, same, Text.trimStart, Text.trimStart]
  conv => rhs; rw [split]
  rw [List.dropWhile_append, if_neg (by simpa using nonempty)]

theorem headless_feed {fragment : String} (plain : ¬ HasHeaderLine fragment) :
    Headless (Text.lines (fragment.toList ++ ['\n'])) := by
  intro line member
  rw [← Text.flatten_lines fragment.toList] at member
  rcases Text.bare_of_mem_feed (Text.cut_lines _) member with blank | ⟨old, known, same⟩
  · rw [headed?, blank]
    decide
  · have unheaded := headless_lines plain old known
    rwa [headed?, same, ← headed?]

/-- The lines between a header and the fragment below it. -/
def noteLines : List (List Char) :=
  [parentLine.toList, "\n".toList, noteLine.toList]

theorem headless_noteLines : Headless noteLines := by
  unfold Headless
  decide

theorem belowNote_noteLines (ls : List (List Char)) : belowNote (noteLines ++ ls) = ls.flatten := by
  have above : ∀ line ∈ [parentLine.toList, "\n".toList], decide (line ≠ noteLine.toList) := by
    decide
  have split : noteLines ++ ls = [parentLine.toList, "\n".toList] ++ noteLine.toList :: ls := rfl
  rw [belowNote, split, List.dropWhile_append_of_pos above, List.dropWhile_cons_of_neg (by simp)]
  rfl

/-- Bodies from the header of the first one on. -/
def fromHeader (id fragment : String) (later : Catalog) : List Char :=
  (headerStem ++ id ++ "\n").toList ++
    (noteLines.flatten ++ (fragment.toList ++ (bodies later).toList))

theorem toList_bodies_cons (id fragment : String) (later : Catalog) :
    (bodies ((id, fragment) :: later)).toList = separation ++ fromHeader id fragment later := by
  have feed : "\n".toList = ['\n'] := by decide
  simp only [bodies_cons, body, heading, separation, fromHeader, noteLines, String.toList_append,
    feed, List.flatten_cons, List.flatten_nil, List.append_assoc, List.cons_append, List.nil_append]

theorem lines_separation (before : List Char) (rest : List Char) :
    Text.lines (before ++ (separation ++ rest)) =
      Text.lines (before ++ ['\n']) ++ separatorLine.toList :: Text.lines rest := by
  have separator : Text.lines separatorLine.toList = [separatorLine.toList] := by decide
  have ended : Text.Ended separatorLine.toList := .inr (by decide)
  have fed : Text.Ended (before ++ ['\n']) := .inr (by simp)
  have split : before ++ (separation ++ rest) =
      before ++ ['\n'] ++ (separatorLine.toList ++ rest) := by
    simp [separation]
  rw [split, Text.lines_append fed, Text.lines_append ended, separator, List.singleton_append]

theorem lines_fromHeader {id : String} (valid : isSubtaskId id) (fragment : String)
    (later : Catalog) :
    Text.lines (fromHeader id fragment later) = (headerStem ++ id ++ "\n").toList ::
      (noteLines ++ Text.lines (fragment.toList ++ (bodies later).toList)) := by
  have feed : "\n".toList = ['\n'] := by decide
  have header : '\n' ∉ (headerStem ++ id).toList := by
    rw [String.toList_append]
    exact List.not_mem_append (by decide) (plain_of_isSubtaskId valid)
  have first : Text.lines (headerStem ++ id ++ "\n").toList =
      [(headerStem ++ id ++ "\n").toList] := by
    rw [String.toList_append (s := headerStem ++ id), feed, Text.lines_of_line header]
  have notes : Text.lines noteLines.flatten = noteLines := by decide
  have ended : Text.Ended noteLines.flatten := .inr (by decide)
  rw [fromHeader, Text.lines_append (Text.ended_append_feed _), first, Text.lines_append ended,
    notes]
  rfl

/-- What bodies name and hold, from the header of the first one on. -/
theorem read_fromHeader {id fragment : String} {later : Catalog} (valid : isSubtaskId id)
    (plain : ¬ HasHeaderLine fragment) (valids : ∀ s ∈ later, isSubtaskId s.1)
    (plains : ∀ s ∈ later, ¬ HasHeaderLine s.2) :
    (Text.lines (fromHeader id fragment later)).filterMap headed? = id :: later.names ∧
      readFragments (sections (Text.lines (fromHeader id fragment later))) =
        some fragment :: later.map fun s => some s.2 := by
  have header := headed?_header valid
  -- The last fragment goes on to the end, any other one to the separation from the next header.
  induction later generalizing id fragment with
  | nil =>
      have blank : bodies [] = "" := rfl
      have body := headless_noteLines.append (headless_lines plain)
      rw [lines_fromHeader valid, blank, String.toList_empty, List.append_nil,
        List.filterMap_cons_some header, List.filterMap_eq_nil_iff.mpr body]
      have last : ∀ line ∈ ([] : List (List Char)).head?, (headed? line).isSome := by simp
      have whole := sections_header body header last
      rw [List.append_nil] at whole
      rw [whole]
      simp [sections, readFragments, belowNote_noteLines, Text.flatten_lines, Catalog.names]
  | cons s later ih =>
      obtain ⟨next, fragment'⟩ := s
      obtain ⟨valid', valids⟩ := List.forall_mem_cons.mp valids
      obtain ⟨plain', plains⟩ := List.forall_mem_cons.mp plains
      obtain ⟨names, fragments⟩ := ih valid' plain' valids plains (headed?_header valid')
      have separator : Headless [separatorLine.toList] := by
        unfold Headless
        decide
      have block := headless_noteLines.append ((headless_feed plain).append separator)
      have cut : Text.lines (fromHeader id fragment ((next, fragment') :: later)) =
          (headerStem ++ id ++ "\n").toList ::
            (noteLines ++ (Text.lines (fragment.toList ++ ['\n']) ++ [separatorLine.toList]) ++
              Text.lines (fromHeader next fragment' later)) := by
        rw [lines_fromHeader valid, toList_bodies_cons, lines_separation]
        simp only [List.append_assoc, List.singleton_append]
      have starts : ∀ line ∈ (Text.lines (fromHeader next fragment' later)).head?,
          (headed? line).isSome := by
        rw [lines_fromHeader valid']
        rintro line first
        obtain rfl := Option.some.inj first
        rw [headed?_header valid']
        rfl
      rw [cut, sections_header block header starts, List.filterMap_cons_some header,
        List.filterMap_append, List.filterMap_eq_nil_iff.mpr block, names]
      refine ⟨rfl, ?_⟩
      have held : belowNote
          (noteLines ++ (Text.lines (fragment.toList ++ ['\n']) ++ [separatorLine.toList])) =
            fragment.toList ++ separation := by
        rw [belowNote_noteLines, List.flatten_append, Text.flatten_lines, List.flatten_singleton,
          List.append_assoc]
        rfl
      have more : sections (Text.lines (fromHeader next fragment' later)) ≠ [] := by
        intro empty
        rw [empty] at fragments
        cases fragments
      obtain ⟨following, others, same⟩ := List.exists_cons_of_ne_nil more
      rw [same] at fragments ⊢
      rw [readFragments, held, List.isSuffixOf?_eq_some_iff_append_eq.mpr rfl, fragments]
      · simp
      · simp

/-- The ids that bodies name and the fragments that they hold. -/
theorem read_bodies {c : Catalog} (valid : ∀ s ∈ c, isSubtaskId s.1)
    (plain : ∀ s ∈ c, ¬ HasHeaderLine s.2) :
    headedIds (bodies c) = c.names ∧
      readFragments (sections (Text.lines (bodies c).toList)) = c.map fun s => some s.2 := by
  cases c with
  | nil => exact ⟨rfl, rfl⟩
  | cons s later =>
      obtain ⟨id, fragment⟩ := s
      obtain ⟨valid, valids⟩ := List.forall_mem_cons.mp valid
      obtain ⟨plain, plains⟩ := List.forall_mem_cons.mp plain
      obtain ⟨names, fragments⟩ := read_fromHeader valid plain valids plains
      have blank : Headless ["\n".toList, separatorLine.toList] := by
        unfold Headless
        decide
      have cut : Text.lines (bodies ((id, fragment) :: later)).toList =
          ["\n".toList, separatorLine.toList] ++ Text.lines (fromHeader id fragment later) := by
        have split := lines_separation [] (fromHeader id fragment later)
        rw [List.nil_append, ← toList_bodies_cons] at split
        exact split
      rw [headedIds, cut, List.filterMap_append, List.filterMap_eq_nil_iff.mpr blank,
        sections_headless blank, names, fragments]
      exact ⟨rfl, rfl⟩

/-- The fragments that the text of bodies holds, section by section. -/
def fragmentsIn (text : String) : List (Option String) :=
  readFragments (sections (Text.lines text.toList))

/-- Both projections of a registry name its ids in order, each once, and below the margin of the
    entry function as well. The bodies hold its fragments, whatever they start and end with. -/
theorem projections_name_subtasks {r : Registry} (filled : r.Filled)
    (plain : ∀ s ∈ r.subtasks, ¬ HasHeaderLine s.2) :
    calledIds (callSites r.subtasks) = r.ids ∧ r.ids.Nodup ∧
      headedIds (callSites r.subtasks) = r.ids ∧ headedIds (bodies r.subtasks) = r.ids ∧
      calledIds (Text.indent (callSites r.subtasks) callMargin) = r.ids.map (callMargin ++ ·) ∧
      headedIds (Text.indent (callSites r.subtasks) callMargin) = r.ids ∧
      fragmentsIn (bodies r.subtasks) = r.subtasks.map fun s => some s.2 := by
  obtain ⟨distinct, valid⟩ := filled.sound
  obtain ⟨calls, headers⟩ := read_callSites valid
  obtain ⟨indented, below⟩ := read_callSection valid
  obtain ⟨names, fragments⟩ := read_bodies valid plain
  exact ⟨calls, distinct, headers, names, indented, below, fragments⟩

/-- Three fragments: one that breaks off within a line, an empty one, and an indented one with a
    line that speaks of headers. -/
theorem projections_name_subtasks_of_three :
    let c : Catalog := [("Sub_1", "; body"), ("_2", ""), ("c", "  x()\n; a header >> y\n")]
    Registry.Filled ⟨c⟩ ∧ (∀ s ∈ c, ¬ HasHeaderLine s.2) ∧
      calledIds (callSites c) = ["Sub_1", "_2", "c"] ∧
      headedIds (callSites c) = headedIds (bodies c) ∧
      calledIds (Text.indent (callSites c) callMargin) =
        ["        Sub_1", "        _2", "        c"] ∧
      fragmentsIn (bodies c) =
        [some "; body", some "", some "  x()\n; a header >> y\n"] := by
  intro c
  have first : Registry.empty.insert "Sub_1" "; body" = .ok ⟨[("Sub_1", "; body")]⟩ := by rfl
  have second : Registry.insert ⟨[("Sub_1", "; body")]⟩ "_2" "" =
      .ok ⟨[("Sub_1", "; body"), ("_2", "")]⟩ := by rfl
  have third : Registry.insert ⟨[("Sub_1", "; body"), ("_2", "")]⟩ "c"
      "  x()\n; a header >> y\n" = .ok ⟨c⟩ := by rfl
  have filled : Registry.Filled ⟨c⟩ := .insert third (.insert second (.insert first .empty))
  have plain : ∀ s ∈ c, ¬ HasHeaderLine s.2 := by
    unfold HasHeaderLine
    decide +kernel
  obtain ⟨calls, -, headers, names, indented, -, fragments⟩ :=
    projections_name_subtasks (r := ⟨c⟩) filled plain
  refine ⟨filled, plain, calls, headers.trans names.symm, indented.trans ?_, fragments⟩
  decide +kernel

end Script

end RemoteDesk
