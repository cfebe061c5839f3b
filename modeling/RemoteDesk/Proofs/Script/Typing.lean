import RemoteDesk.Proofs.Text.Reading
import RemoteDesk.Script.Assembly

/-! # What an escaped value types

A `Send` statement is read twice. Its string literal ends at the first double quote that does not
double another; what the literal holds is then read as strokes, where a special character in braces
stands for itself, a name in braces for a key, and a special character on its own for a modifier.
Read like this, an escaped value types its own characters and nothing else, whatever comes after the
statement. So the three statements of a script type the three credentials.
-/

namespace RemoteDesk.Script

/-! ## Reading a statement -/

/-- The keys that the statements of a script press after a value. -/
inductive Key where
  | tab
  | enter
  deriving Repr, DecidableEq

def Key.name : Key → String
  | .tab => tabKey
  | .enter => enterKey

/-- What a literal does when it is sent. -/
inductive Stroke where
  | types (c : Char)
  | presses (key : Key)
  /-- A special character outside of braces changes what follows it. -/
  | modifies (c : Char)
  deriving Repr, DecidableEq

/-- Reads a string literal behind its opening quote: what it holds, and what follows the quote that
    closes it. -/
def readLiteral : List Char → Option (List Char × List Char)
  | [] => none
  | '"' :: '"' :: rest => (readLiteral rest).map fun (held, after) => ('"' :: held, after)
  | '"' :: rest => some ([], rest)
  | c :: rest => (readLiteral rest).map fun (held, after) => (c :: held, after)

def bareStroke (c : Char) : Stroke :=
  if isSendSpecial c then .modifies c else .types c

def strokes : List Char → List Stroke
  | [] => []
  | '\x7b' :: 'T' :: 'A' :: 'B' :: '\x7d' :: rest => .presses .tab :: strokes rest
  | '\x7b' :: 'E' :: 'N' :: 'T' :: 'E' :: 'R' :: '\x7d' :: rest => .presses .enter :: strokes rest
  | '\x7b' :: c :: '\x7d' :: rest =>
    if isSendSpecial c then .types c :: strokes rest
    else .modifies '\x7b' :: strokes (c :: '\x7d' :: rest)
  | c :: rest => bareStroke c :: strokes rest

def sendHead : String := "    Send(\""

/-- What stands after the literal, without its closing quote. -/
def sendTail : String := ")\n"

/-- Reads a `Send` statement up to the quote that closes its literal: the strokes, and what is
    left. -/
def readSend (text : List Char) : Option (List Stroke × List Char) := do
  let literal ← sendHead.toList.isPrefixOf? text
  let (held, after) ← readLiteral literal
  return (strokes held, after)

/-- Reads a statement that types a credential, with the delay after it. -/
def readEntry (text : List Char) : Option (List Stroke × List Char) := do
  let (typed, after) ← readSend text
  let rest ← (sendTail ++ entryDelay).toList.isPrefixOf? after
  return (typed, rest)

def readEntries : Nat → List Char → Option (List (List Stroke) × List Char)
  | 0, text => some ([], text)
  | n + 1, text => do
    let (typed, rest) ← readEntry text
    let (others, after) ← readEntries n rest
    return (typed :: others, after)

/-! ## Literals -/

/-- What is left of an escaped character when doubled quotes have been read as one. -/
def bracedChar (c : Char) : List Char :=
  if isSendSpecial c then ['\x7b', c, '\x7d'] else [c]

theorem readLiteral_of_ne {c : Char} (h : c ≠ '"') (rest : List Char) :
    readLiteral (c :: rest) = (readLiteral rest).map fun (held, after) => (c :: held, after) := by
  rw [readLiteral]
  · exact fun _ quote => absurd quote h
  · exact h

theorem ne_quote_of_isSendSpecial {c : Char} (h : isSendSpecial c) : c ≠ '"' := by
  rintro rfl
  exact absurd h (by decide)

theorem readLiteral_escapeChar (c : Char) (rest : List Char) :
    readLiteral (escapeChar c ++ rest) =
      (readLiteral rest).map fun (held, after) => (bracedChar c ++ held, after) := by
  unfold escapeChar bracedChar
  by_cases special : isSendSpecial c
  · rw [if_pos special, if_pos special]
    simp only [List.cons_append, List.nil_append]
    rw [readLiteral_of_ne (by decide), readLiteral_of_ne (ne_quote_of_isSendSpecial special),
      readLiteral_of_ne (by decide), Option.map_map, Option.map_map]
    rfl
  · rw [if_neg special, if_neg special]
    by_cases quote : c = '"'
    · subst quote
      rfl
    · rw [if_neg quote]
      exact readLiteral_of_ne quote rest

theorem readLiteral_escape (value rest : List Char) :
    readLiteral (value.flatMap escapeChar ++ rest) =
      (readLiteral rest).map fun (held, after) => (value.flatMap bracedChar ++ held, after) := by
  induction value with
  | nil => simp
  | cons c others ih =>
      rw [List.flatMap_cons, List.append_assoc, readLiteral_escapeChar, ih, Option.map_map]
      simp [Function.comp_def]

/-- The name of a key holds no quote, and behind it the quote of the statement closes the
    literal. -/
theorem readLiteral_key (key : Key) (rest : List Char) :
    readLiteral (key.name.toList ++ '"' :: (sendTail.toList ++ rest)) =
      some (key.name.toList, sendTail.toList ++ rest) := by
  cases key <;> rfl

/-! ## Strokes -/

theorem strokes_of_ne {c : Char} (h : c ≠ '\x7b') (rest : List Char) :
    strokes (c :: rest) = bareStroke c :: strokes rest := by
  rw [strokes]
  · exact fun _ brace _ => h brace
  · exact fun _ brace _ => h brace
  · exact fun _ _ brace _ => h brace

theorem strokes_bracedChar (c : Char) (rest : List Char) :
    strokes (bracedChar c ++ rest) = .types c :: strokes rest := by
  unfold bracedChar
  by_cases special : isSendSpecial c
  · have listed : c = '!' ∨ c = '+' ∨ c = '^' ∨ c = '#' ∨ c = '\x7b' ∨ c = '\x7d' := by
      simpa [isSendSpecial, or_assoc] using special
    rcases listed with rfl | rfl | rfl | rfl | rfl | rfl <;> rfl
  · have open_ : c ≠ '\x7b' := by
      rintro rfl
      exact special (by decide)
    rw [if_neg special, List.singleton_append, strokes_of_ne open_, bareStroke, if_neg special]

theorem strokes_key (key : Key) : strokes key.name.toList = [.presses key] := by
  cases key <;> rfl

/-- The strokes of a value that is typed literally before a key. -/
def typing (value : String) (key : Key) : List Stroke :=
  value.toList.map .types ++ [.presses key]

theorem strokes_braced (value : List Char) (key : Key) :
    strokes (value.flatMap bracedChar ++ key.name.toList) = value.map .types ++ [.presses key] := by
  induction value with
  | nil => exact strokes_key key
  | cons c others ih =>
      rw [List.flatMap_cons, List.append_assoc, strokes_bracedChar, ih]
      rfl

theorem modifies_not_mem_typing (value : String) (key : Key) (c : Char) :
    .modifies c ∉ typing value key := by
  simp [typing]

/-! ## Statements -/

theorem toList_sendStatement (value : String) (key : Key) (rest : List Char) :
    (sendStatement (escape value) key.name).toList ++ rest =
      sendHead.toList ++ (value.toList.flatMap escapeChar ++
        (key.name.toList ++ '"' :: (sendTail.toList ++ rest))) := by
  have close : "\")\n".toList = '"' :: sendTail.toList := by decide
  simp only [sendStatement, escape, String.toList_append, String.toList_ofList, close,
    List.append_assoc, List.cons_append]
  rfl

theorem readSend_sendStatement (value : String) (key : Key) (rest : List Char) :
    readSend ((sendStatement (escape value) key.name).toList ++ rest) =
      some (typing value key, sendTail.toList ++ rest) := by
  rw [toList_sendStatement, readSend, Text.isPrefixOf?_append]
  simp only [Option.bind_eq_bind, Option.bind_some, readLiteral_escape, readLiteral_key,
    Option.map_some, strokes_braced]
  rfl

theorem readEntry_typeEntry (value : String) (key : Key) (rest : List Char) :
    readEntry ((typeEntry (escape value) key.name).toList ++ rest) =
      some (typing value key, rest) := by
  have tail : sendTail.toList ++ (entryDelay.toList ++ rest) =
      (sendTail ++ entryDelay).toList ++ rest := by
    rw [String.toList_append, List.append_assoc]
  rw [readEntry, typeEntry, String.toList_append, List.append_assoc, readSend_sendStatement]
  simp only [Option.bind_eq_bind, Option.bind_some, tail, Text.isPrefixOf?_append]
  rfl

/-! ## Scripts -/

/-- What the opening says before the credentials. -/
def openHead (index : UInt32) : String :=
  "\n\nFunc " ++ taskKey index ++ "()\n" ++ openPrelude

/-- What stands in a script before its credentials. -/
def lead (index : UInt32) : String :=
  declaration index ++ openHead index

def entries (c : Credentials) : String :=
  typeEntry (escape c.computer) (Key.name .tab) ++ typeEntry (escape c.username) (Key.name .enter)
    ++ typeEntry (escape c.password) (Key.name .enter)

/-- What stands in a script behind its credentials. -/
def remainder (subtasks : Catalog) : String :=
  openEpilogue ++ callSection subtasks ++ closeSequence ++ bodies subtasks

theorem openSequence_escaped (index : UInt32) (c : Credentials) :
    openSequence index (escape c.computer) (escape c.username) (escape c.password) =
      openHead index ++ entries c ++ openEpilogue := by
  simp only [openSequence, openHead, entries, String.append_assoc, Key.name]

theorem text_assemble (index : UInt32) (c : Credentials) (subtasks : Catalog) :
    (assemble index c subtasks true).text = lead index ++ entries c ++ remainder subtasks := by
  simp only [assemble, Credentials.map, openSequence_escaped, lead, remainder, if_true,
    String.append_assoc]

theorem readEntries_entries (c : Credentials) (rest : List Char) :
    readEntries 3 ((entries c).toList ++ rest) =
      some ([typing c.computer .tab, typing c.username .enter, typing c.password .enter],
        rest) := by
  simp only [entries, String.toList_append, List.append_assoc, readEntries, readEntry_typeEntry,
    Option.bind_eq_bind, Option.bind_some]
  rfl

/-- An escaped value is read back as its own characters and the one key, with no modifier among
    them, and the literal ends at the quote that the statement puts behind the key. So the three
    statements of an escaped script, which stand between a fixed text and the rest of the script,
    type exactly the three credentials. -/
theorem escaped_value_types_itself :
    (∀ (value : String) (key : Key) (rest : List Char),
      readSend ((sendStatement (escape value) key.name).toList ++ rest) =
        some (value.toList.map .types ++ [.presses key], ")\n".toList ++ rest) ∧
      ∀ c, Stroke.modifies c ∉ value.toList.map .types ++ [.presses key]) ∧
    ∀ (index : UInt32) (c : Credentials) (subtasks : Catalog),
      ∃ text : List Char,
        (assemble index c subtasks true).text.toList = (lead index).toList ++ text ∧
        readEntries 3 text = some
          ([c.computer.toList.map .types ++ [.presses .tab],
            c.username.toList.map .types ++ [.presses .enter],
            c.password.toList.map .types ++ [.presses .enter]],
            (remainder subtasks).toList) := by
  constructor
  · intro value key rest
    exact ⟨readSend_sendStatement value key rest, modifies_not_mem_typing value key⟩
  · intro index c subtasks
    refine ⟨(entries c).toList ++ (remainder subtasks).toList, ?_, readEntries_entries c _⟩
    rw [text_assemble, String.toList_append, String.toList_append, List.append_assoc]

/-- Without escaping, a value that spells a key presses it. -/
example : readSend (sendStatement "\x7bTAB\x7d" (Key.name .enter)).toList =
    some ([.presses .tab, .presses .enter], ")\n".toList) := by
  decide

end RemoteDesk.Script
