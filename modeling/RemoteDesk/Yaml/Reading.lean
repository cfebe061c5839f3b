import RemoteDesk.Yaml.Document
import RemoteDesk.Yaml.Value

/-! # Reading documents

What a document says to someone who knows what to expect at each place: a text, a truth value, a
number, or any value at all. Aliases are followed, but only so often, and collections may stand
inside each other only so deep.
-/

namespace RemoteDesk.Yaml

/-- A reading that may follow so many aliases more. -/
abbrev Reading := StateT Nat (Except Fault)

/-- How deep collections may stand inside each other. -/
def maxDepth : Nat := 128

/-- How many aliases may be followed for each word or mark of a document. -/
def aliasesPerPart : Nat := 100

namespace Tag

/-- A tag of YAML's own. -/
def standard (name : String) : Bytes :=
  Utf8.encode ("tag:yaml.org,2002:" ++ name)

/-- The name in a tag of the document's own, which starts with an exclamation mark. -/
def local? : Option Bytes → Option String
  | some (b :: name) => if b = 0x21 then Utf8.decode? name else none
  | _ => none

/-- A name without the exclamation mark that it may start with. -/
def bare (name : String) : String :=
  match name.toList with
  | '!' :: c :: rest => String.ofList (c :: rest)
  | _ => name

/-- A value with its tag, if that is the document's own; the tag must have a name. -/
def attach (tag : Option Bytes) (value : Value) : Except Fault Value :=
  match local? tag with
  | none => .ok value
  | some name => if name = "" then .error .badTag else .ok (.tagged (bare name) value)

end Tag

namespace Value

/-- The value of a plain text. A whole number has 64 bits at most. -/
def ofPlain (text : String) : Except Fault Value :=
  match Meaning.ofText text with
  | .null => .ok .null
  | .bool b => .ok (.bool b)
  | .whole n => if -Int.pow 2 63 ≤ n ∧ n < Int.pow 2 64 then .ok (.whole n) else .error .wrongKind
  | .double x => .ok (.double x)
  | .text => .ok (.string text)

/-- The value of a scalar without a tag. -/
def ofBare (style : Style) (text : String) : Except Fault Value :=
  if style = .plain then ofPlain text else .ok (.string text)

/-- The value of a scalar with a standard tag, which must fit its text; any other tag makes it a
    text. -/
def ofStandard (tag : Bytes) (style : Style) (text : String) : Except Fault Value :=
  let expect : Option Value → Except Fault Value
    | some v => .ok v
    | none => .error .wrongKind
  if tag = Tag.standard "bool" then expect ((Meaning.bool? text).map .bool)
  else if tag = Tag.standard "int" then
    match Meaning.whole? text.toList with
    | some n => if -Int.pow 2 63 ≤ n ∧ n < Int.pow 2 64 then .ok (.whole n) else .error .wrongKind
    | none => .error .wrongKind
  else if tag = Tag.standard "float" then expect ((Meaning.double? text).map .double)
  else if tag = Tag.standard "null" then
    if text ∈ Meaning.nullWords then .ok .null else .error .wrongKind
  else if tag.head? = some 0x21 then ofBare style text
  else .ok (.string text)

def ofScalar (tag : Option Bytes) (style : Style) (text : String) : Except Fault Value :=
  match tag with
  | none => ofBare style text
  | some t =>
    if (Tag.local? tag).isSome then do Tag.attach tag (← ofBare style text)
    else ofStandard t style text

end Value

namespace Document

/-- The node that is meant: an alias means the node with the anchor. -/
def follow (d : Document) : Node → Reading Node
  | .alias number => do
    let left ← get
    if left = 0 then throw .tooManyAliases
    set (left - 1)
    match d.anchored? number with
    | some node => return node
    | none => throw .unknownAnchor
  | node => return node

/-- The text of a scalar, whatever it says. -/
def text (d : Document) (n : Node) : Reading String := do
  match ← d.follow n with
  | .scalar _ _ text => return text
  | _ => throw .wrongKind

/-- A scalar says that there is nothing: it is plain, and empty or a word for nothing. A tag other
    than that for nothing makes it a text. -/
def isNothing (tag : Option Bytes) (style : Style) (text : String) : Except Fault Bool :=
  if style ≠ .plain then .ok false
  else
    match tag with
    | none => .ok (text = "" || text ∈ Meaning.nullWords)
    | some t =>
      if t = Tag.standard "null" then
        if text ∈ Meaning.nullWords then .ok true else .error .wrongKind
      else .ok false

/-- The text of a scalar, unless it says that there is nothing. -/
def optionalText (d : Document) (n : Node) : Reading (Option String) := do
  match ← d.follow n with
  | .scalar p style text =>
    return if ← (isNothing p.tag style text : Except Fault Bool) then none else some text
  | _ => throw .wrongKind

/-- The text of a scalar that may say more than a text: a plain one, or a literal one with the
    standard tag of that name. -/
def saying? (tag : Option Bytes) (style : Style) (name text : String) : Option String :=
  if style = .plain ∨ (style = .literal ∧ tag = some (Tag.standard name)) then some text else none

def bool (d : Document) (n : Node) : Reading Bool := do
  match ← d.follow n with
  | .scalar p style text =>
    match (saying? p.tag style "bool" text).bind Meaning.bool? with
    | some b => return b
    | none => throw .wrongKind
  | _ => throw .wrongKind

/-- The whole number of 32 bits that a scalar says. -/
def word? (p : Properties) (style : Style) (text : String) : Option UInt32 := do
  let n ← (saying? p.tag style "int" text).bind fun text => Meaning.natural? text.toList
  if n < Nat.pow 2 32 then return UInt32.ofNat n else none

/-- A whole number of 32 bits. -/
def word (d : Document) (n : Node) : Reading UInt32 := do
  match ← d.follow n with
  | .scalar p style text =>
    match word? p style text with
    | some w => return w
    | none => throw .wrongKind
  | _ => throw .wrongKind

/-- A whole number of 32 bits, unless there is nothing. -/
def optionalWord (d : Document) (n : Node) : Reading (Option UInt32) := do
  match ← d.follow n with
  | .scalar p style text =>
    if ← (isNothing p.tag style text : Except Fault Bool) then return none
    match word? p style text with
    | some w => return some w
    | none => throw .wrongKind
  | _ => throw .wrongKind

/-- Adds an entry to a mapping that has no entry with the same key. -/
def addEntry (entries : List (Value × Value)) (key value : Value) :
    Except Fault (List (Value × Value)) :=
  if entries.any fun e => e.1.same key then .error .repeatedKey
  else .ok (entries ++ [(key, value)])

/-- The value of a node with at most `depth` collections inside each other. -/
def value (d : Document) : Nat → Node → Reading Value
  | depth, node => do
    match ← d.follow node with
    | .scalar p style text => (Value.ofScalar p.tag style text : Except Fault Value)
    | .sequence p items =>
      match depth with
      | 0 => throw .tooDeep
      | depth + 1 =>
        let items ← items.mapM (d.value depth)
        (Tag.attach p.tag (.sequence items) : Except Fault Value)
    | .mapping p entries =>
      match depth with
      | 0 => throw .tooDeep
      | depth + 1 =>
        let entries ← entries.foldlM (fun known (k, v) => do
          let key ← d.value depth k
          let value ← d.value depth v
          (addEntry known key value : Except Fault _)) []
        (Tag.attach p.tag (.mapping entries) : Except Fault Value)
    | .alias _ => throw .unknownAnchor

/-- The entries of a mapping. An empty scalar is a mapping without entries. -/
def entries (d : Document) (n : Node) : Reading (List (Node × Node)) := do
  match ← d.follow n with
  | .mapping _ entries => return entries
  | .scalar _ _ "" => return []
  | _ => throw .wrongKind

/-- The values of the entries of a mapping with at most `depth` collections inside each other. -/
def valueEntries (d : Document) (depth : Nat) (n : Node) : Reading (List (Value × Value)) := do
  (← d.entries n).foldlM (fun known (k, v) => do
    let key ← d.value (depth - 1) k
    let value ← d.value (depth - 1) v
    (addEntry known key value : Except Fault _)) []

/-- The fields of a document: the entries of its mapping, by the text of their keys. -/
def fields (d : Document) : Reading (List (String × Node)) := do
  (← d.entries d.root).mapM fun (key, value) => return (← d.text key, value)

/-- A field among others, read by `f`; without it the answer is `fallback`. A field that is asked
    for may not occur twice. -/
def field {α : Type} (fields : List (String × Node)) (name : String) (f : Node → Reading α)
    (fallback : α) : Reading α :=
  match fields.filter (·.1 = name) with
  | [] => return fallback
  | [(_, node)] => f node
  | _ => throw .repeatedKey

/-- Reads a document to the end; at most `aliasesPerPart` aliases are followed for each of its
    parts. -/
def reading {α : Type} (d : Document) (f : Reading α) : Except Fault α :=
  (f.run (d.root.extent * aliasesPerPart)).map (·.1)

end Document

end RemoteDesk.Yaml
