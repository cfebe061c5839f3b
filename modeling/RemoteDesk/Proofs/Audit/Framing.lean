import RemoteDesk.Audit.Log
import RemoteDesk.Proofs.Audit.Encoding
import RemoteDesk.Proofs.FileTree.Appending
import RemoteDesk.Proofs.Text.Utf8
import RemoteDesk.Shell

/-! # The lines of the audit log

Every event is added as the bytes of its line with a line feed behind them, and nothing before them.
So each is a line of its own if what stood in the file was empty or ended with a line feed. Where an
earlier write was broken off, the first event that is added goes on with the line that it left, and
only the later ones are lines of their own.
-/

namespace RemoteDesk

open Shell

/-! ## Lines -/

/-- No line is broken off: there is none, or the last has its line feed. -/
def Ended (content : Bytes) : Prop :=
  content = [] ∨ content.getLast? = some 0x0a

theorem Ended.tail {b : UInt8} {rest : Bytes} (h : Ended (b :: rest)) : Ended rest := by
  cases rest with
  | nil => exact .inl rfl
  | cons c others =>
      rcases h with empty | last
      · cases empty
      · exact .inr (by rwa [List.getLast?_cons_cons] at last)

theorem inputLines_ne_nil {content : Bytes} (h : content ≠ []) : inputLines content ≠ [] := by
  cases content with
  | nil => exact (h rfl).elim
  | cons b rest =>
      unfold inputLines
      split
      · exact List.cons_ne_nil _ _
      · cases inputLines rest <;> exact List.cons_ne_nil _ _

/-- Behind a line feed new lines begin. -/
theorem inputLines_append {content : Bytes} (h : Ended content) (more : Bytes) :
    inputLines (content ++ more) = inputLines content ++ inputLines more := by
  induction content with
  | nil => rfl
  | cons b rest ih =>
      have later := ih h.tail
      rw [List.cons_append, inputLines, inputLines]
      split
      · rw [later, List.cons_append]
      · next other =>
          have nonempty : rest ≠ [] := by
            rintro rfl
            rcases h with empty | last
            · cases empty
            · exact other (Option.some.inj last)
          rw [later]
          cases lines : inputLines rest with
          | nil => exact (inputLines_ne_nil nonempty lines).elim
          | cons line others => rfl

/-- A line goes on up to the next line feed. -/
theorem inputLines_feed {line : Bytes} (unbroken : 0x0a ∉ line) (more : Bytes) :
    inputLines (line ++ 0x0a :: more) = (line ++ [0x0a]) :: inputLines more := by
  induction line with
  | nil => simp [inputLines]
  | cons b rest ih =>
      obtain ⟨other, unbroken⟩ : b ≠ 0x0a ∧ 0x0a ∉ rest := by simpa [eq_comm] using unbroken
      rw [List.cons_append, inputLines, if_neg other, ih unbroken]
      rfl

theorem inputLines_torn {torn : Bytes} (unbroken : 0x0a ∉ torn) :
    inputLines torn = if torn = [] then [] else [torn] := by
  induction torn with
  | nil => rfl
  | cons b rest ih =>
      obtain ⟨other, unbroken⟩ : b ≠ 0x0a ∧ 0x0a ∉ rest := by simpa [eq_comm] using unbroken
      rw [inputLines, if_neg other, ih unbroken]
      cases rest <;> simp

/-- What stands in a file falls into whole lines and what is behind the last line feed. -/
theorem exists_torn (content : Bytes) :
    ∃ whole torn, content = whole ++ torn ∧ Ended whole ∧ 0x0a ∉ torn := by
  induction content with
  | nil => exact ⟨[], [], rfl, .inl rfl, List.not_mem_nil⟩
  | cons b rest ih =>
      obtain ⟨whole, torn, rfl, ended, unbroken⟩ := ih
      cases whole with
      | nil =>
          by_cases feed : b = 0x0a
          · exact ⟨[b], torn, rfl, .inr (by rw [feed]; rfl), unbroken⟩
          · exact ⟨[], b :: torn, rfl, .inl rfl, by simpa [eq_comm, feed] using unbroken⟩
      | cons c others =>
          refine ⟨b :: c :: others, torn, rfl, .inr ?_, unbroken⟩
          rw [List.getLast?_cons_cons]
          exact ended.resolve_left (List.cons_ne_nil c others)

/-- Only the line feed is taken off a line without control characters. -/
theorem withoutLineEnd_feed {line : String} (clean : Json.Clean line.toList) :
    withoutLineEnd (line ++ "\n") = line := by
  have kept : line.toList.reverse.dropWhile (fun c => c == '\r' || c == '\n') =
      line.toList.reverse := by
    cases last : line.toList.reverse with
    | nil => rfl
    | cons c others =>
        have visible : 32 ≤ c.toNat := by
          apply clean
          rw [← List.mem_reverse, last]
          exact List.mem_cons_self ..
        simp [Json.not_break visible]
  have feed : (line ++ "\n").toList = line.toList ++ ['\n'] := String.toList_append
  rw [withoutLineEnd, feed, List.reverse_concat, List.dropWhile_cons_of_pos (by decide), kept,
    List.reverse_reverse, String.ofList_toList]

namespace Audit

/-! ## Events as lines -/

theorem Event.bytes_eq (e : Event) : e.bytes = Utf8.encode e.line ++ [0x0a] := by
  rw [Event.bytes, Utf8.encode_append]
  rfl

theorem Event.unbroken (e : Event) : 0x0a ∉ Utf8.encode e.line := by
  intro member
  have feed := Utf8.mem_of_mem_encode (c := '\n') (by decide) (by decide) member
  exact absurd (e.clean_line '\n' feed) (by decide)

theorem inputLines_events (events : List Event) :
    inputLines (events.flatMap Event.bytes) = events.map Event.bytes := by
  induction events with
  | nil => rfl
  | cons e rest ih =>
      rw [List.flatMap_cons, e.bytes_eq, List.append_assoc, List.singleton_append,
        inputLines_feed e.unbroken, ih, List.map_cons, e.bytes_eq]

/-- The first event that is added goes on with the line that was broken off, if one was. -/
theorem inputLines_added {whole torn : Bytes} (ended : Ended whole) (unbroken : 0x0a ∉ torn)
    (e : Event) (rest : List Event) :
    inputLines (whole ++ torn ++ (e :: rest).flatMap Event.bytes) =
      inputLines whole ++ (torn ++ e.bytes) :: rest.map Event.bytes := by
  have line : 0x0a ∉ torn ++ Utf8.encode e.line := by
    simp [unbroken, e.unbroken]
  have split : whole ++ torn ++ (e :: rest).flatMap Event.bytes =
      whole ++ ((torn ++ Utf8.encode e.line) ++ 0x0a :: rest.flatMap Event.bytes) := by
    simp [e.bytes_eq]
  rw [split, inputLines_append ended, inputLines_feed line, inputLines_events, e.bytes_eq,
    List.append_assoc]

/-- Events are added as lines of their own exactly if no line was broken off. -/
theorem inputLines_added_iff (old : Bytes) (e : Event) (rest : List Event) :
    inputLines (old ++ (e :: rest).flatMap Event.bytes) =
      inputLines old ++ (e :: rest).map Event.bytes ↔ Ended old := by
  constructor
  · intro same
    obtain ⟨whole, torn, rfl, ended, unbroken⟩ := exists_torn old
    rw [inputLines_added ended unbroken, inputLines_append ended, inputLines_torn unbroken] at same
    have count := congrArg List.length same
    cases torn with
    | nil =>
        rw [List.append_nil]
        exact ended
    | cons b others =>
        simp only [List.length_append, List.length_cons, List.length_map,
          if_neg (List.cons_ne_nil b others), List.length_nil] at count
        omega
  · intro ended
    rw [inputLines_append ended, inputLines_events]

/-- What a reader takes a line for that goes through a file line by line. -/
def lineText? (line : Bytes) : Option String :=
  (Utf8.decode? line).map withoutLineEnd

/-- What is added for an event is its line and a line feed, it is read as that line, and the line is
    a JSON text that stands for the event. -/
structure Event.Legible (e : Event) : Prop where
  bytes : e.bytes = Utf8.encode e.line ++ [0x0a]
  text : lineText? e.bytes = some e.line
  json : (Json.Source.parse e.line).isSome
  event : e.Sound → Event.parse e.line = some e

theorem Event.legible (e : Event) : e.Legible where
  bytes := e.bytes_eq
  text := by
    rw [lineText?, Event.bytes, Utf8.decode?_encode, Option.map_some,
      withoutLineEnd_feed e.clean_line]
  json := by
    rw [e.parse_line_source]
    rfl
  event sound := sound.parse_line

/-! ## Rows of events -/

/-- Hands events to the log of a path, one after the other. The answer is those that it took. -/
def appendEach (t : FileTree) (path : Path) : List Event → List Event × FileTree
  | [] => ([], t)
  | e :: rest =>
    match append t path e with
    | (.ok (), t') => (e :: (appendEach t' path rest).1, (appendEach t' path rest).2)
    | (.error _, t') => appendEach t' path rest

/-- An event that the log takes is added to its file, and nothing is added for one that it refuses. -/
theorem append_cases (t : FileTree) (path : Path) (e : Event) :
    (∃ t', append t path e = (.ok (), t') ∧ t.Extends path e.bytes t') ∨
    ∃ cause t', append t path e = (.error cause, t') ∧ t.Extends path [] t' := by
  have grown := t.makeParent_grows path .eventsDirectory
  unfold append
  rcases held : t.makeParent path .eventsDirectory with ⟨cause | ⟨⟩, t'⟩ <;> rw [held] at grown
  · exact .inr ⟨cause, t', rfl, .of_grows grown path⟩
  · have made := FileTree.Extends.of_grows grown path
    cases added : t'.append path e.bytes with
    | error cause => exact .inr ⟨.eventsFile path cause, t', by simp only [added], made⟩
    | ok t'' =>
        have both := made.trans (FileTree.append_extends added)
        rw [List.nil_append] at both
        exact .inl ⟨t'', by simp only [added], both⟩

theorem appendEach_extends (t : FileTree) (path : Path) (events : List Event) :
    t.Extends path ((appendEach t path events).1.flatMap Event.bytes)
      (appendEach t path events).2 := by
  induction events generalizing t with
  | nil => exact .of_grows (.refl t) path
  | cons e rest ih =>
      unfold appendEach
      rcases append_cases t path e with ⟨t', taken, first⟩ | ⟨cause, t', refused, first⟩
      · simp only [taken, List.flatMap_cons]
        exact first.trans (ih t')
      · simp only [refused]
        exact first.trans (ih t')

/-- However many events are added and whatever the file held, it still holds it, and behind it the
    lines of the events in order. They are lines of their own exactly if no line was broken off
    there. If one was, the first event goes on with that line, and all the others are lines of their
    own. -/
theorem events_added_as_lines_iff (t : FileTree) (path : Path) (events : List Event) :
    let taken := (appendEach t path events).1
    let t' := (appendEach t path events).2
    (∀ e ∈ taken, e.Legible) ∧
    ∀ first rest, taken = first :: rest → ∃ place whole torn,
      let old := t.contentAt place
      let new := old ++ taken.flatMap Event.bytes
      t'.find path = .ok (place, .file new) ∧
      (∀ content, t.read path = .ok content → old = content) ∧
      (inputLines new = inputLines old ++ taken.map Event.bytes ↔ Ended old) ∧
      old = whole ++ torn ∧ Ended whole ∧ 0x0a ∉ torn ∧
      inputLines new = inputLines whole ++ (torn ++ first.bytes) :: rest.map Event.bytes := by
  intro taken t'
  refine ⟨fun e _ => e.legible, ?_⟩
  intro first rest same
  have extended : t.Extends path (taken.flatMap Event.bytes) t' := appendEach_extends t path events
  have nonempty : taken.flatMap Event.bytes ≠ [] := by
    rw [same, List.flatMap_cons, first.bytes_eq]
    simp
  obtain ⟨place, found, stood⟩ := extended.find nonempty
  obtain ⟨whole, torn, split, ended, unbroken⟩ := exists_torn (t.contentAt place)
  refine ⟨place, whole, torn, found, stood, ?_, split, ended, unbroken, ?_⟩
  · rw [same]
    exact inputLines_added_iff (t.contentAt place) first rest
  · rw [split, same]
    exact inputLines_added ended unbroken first rest

/-- Two events behind a line that is there. -/
theorem events_added_as_lines_of_two :
    ∃ t path e new,
      t = ⟨[([Utf8.encode "log"], .file (Utf8.encode "earlier\n"))], []⟩ ∧
      path = Path.ofString "log" ∧
      e = ⟨⟨⟨0, 0, 0⟩, "me"⟩, ⟨.start, none, .null⟩⟩ ∧
      (appendEach t path [e, e]).2.read path = .ok new ∧
      inputLines new = [Utf8.encode "earlier\n", e.bytes, e.bytes] := by
  obtain ⟨t, files⟩ : ∃ t : FileTree,
      t = ⟨[([Utf8.encode "log"], .file (Utf8.encode "earlier\n"))], []⟩ := ⟨_, rfl⟩
  obtain ⟨path, name⟩ : ∃ p, p = Path.ofString "log" := ⟨_, rfl⟩
  obtain ⟨e, happened⟩ : ∃ e : Event, e = ⟨⟨⟨0, 0, 0⟩, "me"⟩, ⟨.start, none, .null⟩⟩ := ⟨_, rfl⟩
  have added : (appendEach t path [e, e]).1.map Event.bytes = [e.bytes, e.bytes] := by
    rw [files, name, happened]
    decide +kernel
  have holds : (t.read path).toOption = some (Utf8.encode "earlier\n") := by
    rw [files, name]
    decide +kernel
  have held : t.read path = .ok (Utf8.encode "earlier\n") := by
    cases read : t.read path with
    | error cause => simp [read, Except.toOption] at holds
    | ok content => simpa [read, Except.toOption] using holds
  have ended : Ended (Utf8.encode "earlier\n") := .inr (by decide +kernel)
  have before : inputLines (Utf8.encode "earlier\n") = [Utf8.encode "earlier\n"] := by
    decide +kernel
  cases taken : (appendEach t path [e, e]).1 with
  | nil => simp [taken] at added
  | cons first rest =>
      obtain ⟨-, lines⟩ := events_added_as_lines_iff t path [e, e]
      obtain ⟨place, whole, torn, found, stood, apart, -⟩ := lines first rest taken
      rw [stood _ held] at found apart
      refine ⟨t, path, e, _, files, name, happened, ?_, (apart.mpr ended).trans ?_⟩
      · rw [FileTree.read, found]
      · rw [added, before]
        rfl

/-- Behind a line that was broken off an event is no line, and no reader of lines comes upon it. -/
theorem event_lost_behind_torn_line :
    ∃ t path e old new,
      t = ⟨[([Utf8.encode "log"], .file (Utf8.encode "\x7b\"broken\""))], []⟩ ∧
      path = Path.ofString "log" ∧
      e = ⟨⟨⟨0, 0, 0⟩, "me"⟩, ⟨.start, none, .null⟩⟩ ∧
      (t.read path).toOption = some old ∧ (append t path e).1.isOk ∧
      ((append t path e).2.read path).toOption = some new ∧
      inputLines new ≠ inputLines old ++ [e.bytes] ∧
      ((inputLines new).map fun line => (lineText? line).bind Event.parse).all (·.isNone) := by
  obtain ⟨t, files⟩ : ∃ t : FileTree,
      t = ⟨[([Utf8.encode "log"], .file (Utf8.encode "\x7b\"broken\""))], []⟩ := ⟨_, rfl⟩
  obtain ⟨path, name⟩ : ∃ p, p = Path.ofString "log" := ⟨_, rfl⟩
  obtain ⟨e, happened⟩ : ∃ e : Event, e = ⟨⟨⟨0, 0, 0⟩, "me"⟩, ⟨.start, none, .null⟩⟩ := ⟨_, rfl⟩
  refine ⟨t, path, e, Utf8.encode "\x7b\"broken\"", Utf8.encode "\x7b\"broken\"" ++ e.bytes, files,
    name, happened, ?_⟩
  rw [files, name, happened]
  decide +kernel

end Audit

end RemoteDesk
