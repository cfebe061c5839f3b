import RemoteDesk.Yaml.Fault
import RemoteDesk.Yaml.Token

/-! # Nodes of YAML documents

A node is a scalar, a sequence, a mapping or an alias of another node. Nodes are read from tokens:
where a node may be left out, an empty plain scalar takes its place.
-/

namespace RemoteDesk.Yaml

/-- What may precede the content of a node. -/
structure Properties where
  anchor : Option Nat
  tag : Option Bytes
  deriving Repr, DecidableEq

inductive Node where
  | scalar (properties : Properties) (style : Style) (text : String)
  | sequence (properties : Properties) (items : List Node)
  | mapping (properties : Properties) (entries : List (Node × Node))
  /-- Another mention of the node with an anchor. -/
  | alias (anchor : Nat)

namespace Node

/-- What takes the place of a node that is left out. -/
def missing : Node := .scalar ⟨none, none⟩ .plain ""

mutual

/-- How many words and marks it takes to write a node: one for a scalar or an alias, and two around
    the parts of a collection. -/
def extent : Node → Nat
  | .scalar .. | .alias _ => 1
  | .sequence _ items => extentOfItems items + 2
  | .mapping _ entries => extentOfEntries entries + 2

/-- The extent of nodes together. -/
def extentOfItems : List Node → Nat
  | [] => 0
  | item :: rest => item.extent + extentOfItems rest

/-- The extent of pairs of nodes together. -/
def extentOfEntries : List (Node × Node) → Nat
  | [] => 0
  | (key, value) :: rest => key.extent + value.extent + extentOfEntries rest

end

mutual

/-- The nodes with an anchor in a node, in the order in which they start. -/
def anchored : Node → List (Nat × Node)
  | .scalar p style text => p.anchor.toList.map (·, .scalar p style text)
  | .alias _ => []
  | .sequence p items => p.anchor.toList.map (·, .sequence p items) ++ anchoredInItems items
  | .mapping p entries =>
    p.anchor.toList.map (·, .mapping p entries) ++ anchoredInEntries entries

/-- The nodes with an anchor in nodes. -/
def anchoredInItems : List Node → List (Nat × Node)
  | [] => []
  | item :: rest => item.anchored ++ anchoredInItems rest

/-- The nodes with an anchor in pairs of nodes. -/
def anchoredInEntries : List (Node × Node) → List (Nat × Node)
  | [] => []
  | (key, value) :: rest => key.anchored ++ value.anchored ++ anchoredInEntries rest

end

end Node

/-- The tokens that are still to be read, and what the names in them stand for. -/
structure Cursor where
  tokens : List Token
  /-- What handles of tags stand for. -/
  handles : List (String × Bytes)
  /-- The names of anchors seen so far, each with the number of its latest use. -/
  anchors : List (String × Nat)

namespace Cursor

def moveTo (c : Cursor) (tokens : List Token) : Cursor :=
  { c with tokens }

def isAt (c : Cursor) (marks : List Token) : Bool :=
  c.tokens.head?.any (· ∈ marks)

/-- Gives a name of an anchor a number: how many names there were before. -/
def nameAnchor (c : Cursor) (name : String) : Nat × Cursor :=
  let number := c.anchors.length
  (number, { c with anchors := put number c.anchors })
where
  /-- Numbers the name anew, or adds it. -/
  put (number : Nat) : List (String × Nat) → List (String × Nat)
    | [] => [(name, number)]
    | (other, n) :: rest =>
      if other = name then (name, number) :: rest else (other, n) :: put number rest

/-- Takes an anchor and a tag, in either order. -/
def takeProperties (c : Cursor) : Option String × Option (String × Bytes) × Cursor :=
  match c.tokens with
  | .anchor name :: .tag handle suffix :: rest => (some name, some (handle, suffix), c.moveTo rest)
  | .tag handle suffix :: .anchor name :: rest => (some name, some (handle, suffix), c.moveTo rest)
  | .anchor name :: rest => (some name, none, c.moveTo rest)
  | .tag handle suffix :: rest => (none, some (handle, suffix), c.moveTo rest)
  | _ => (none, none, c)

def meaning (c : Cursor) (tag : String × Bytes) : Except Fault Bytes :=
  if tag.1 = "" then .ok tag.2
  else
    match c.handles.lookup tag.1 with
    | some start => .ok (start ++ tag.2)
    | none => .error .badTag

def readProperties (c : Cursor) : Except Fault (Properties × Cursor) := do
  let (name, tag, c) := c.takeProperties
  let tag ← tag.mapM c.meaning
  match name with
  | none => return (⟨none, tag⟩, c)
  | some name =>
    let (number, c) := c.nameAnchor name
    return (⟨some number, tag⟩, c)

/-- A node without content is empty if it has properties. -/
def readBare (c : Cursor) (p : Properties) : Except Fault (Node × Cursor) :=
  if p.anchor.isSome || p.tag.isSome then .ok (.scalar p .plain "", c) else .error .unexpectedToken

/-- The properties of a scalar: the tag without a name says nothing of it. -/
def scalarProperties (p : Properties) : Properties :=
  if p.tag = some (Utf8.encode "!") then { p with tag := none } else p

/-- Takes the comma before an item among brackets that is not the first. -/
def takeComma (c : Cursor) (isFirst : Bool) : Except Fault Cursor :=
  match c.tokens with
  | .flowEntry :: rest => .ok (if isFirst then c else c.moveTo rest)
  | _ => if isFirst then .ok c else .error .unexpectedToken

mutual

/-- Reads a node. In a `block` it may be one itself; a key or value of a block may be a sequence
    that is not indented. -/
def readNode (block isPart : Bool) : Nat → Cursor → Except Fault (Node × Cursor)
  | 0, _ => .error .unexpectedToken
  | fuel + 1, c =>
    match c.tokens with
    | .alias name :: rest =>
      match c.anchors.lookup name with
      | some anchor => .ok (.alias anchor, c.moveTo rest)
      | none => .error .unknownAnchor
    | _ => do
      let (p, c) ← c.readProperties
      match c.tokens with
      | .blockEntry :: _ =>
        if isPart then
          let (items, c) ← readLooseItems fuel c
          return (.sequence p items, c)
        else c.readBare p
      | .scalar style text :: rest =>
        return (.scalar (scalarProperties p) style text, c.moveTo rest)
      | .flowSequence :: rest =>
        let (items, c) ← readFlowItems true fuel (c.moveTo rest)
        return (.sequence p items, c)
      | .flowMapping :: rest =>
        let (entries, c) ← readFlowEntries true fuel (c.moveTo rest)
        return (.mapping p entries, c)
      | .blockSequence :: rest =>
        if block then
          let (items, c) ← readItems fuel (c.moveTo rest)
          return (.sequence p items, c)
        else c.readBare p
      | .blockMapping :: rest =>
        if block then
          let (entries, c) ← readEntries fuel (c.moveTo rest)
          return (.mapping p entries, c)
        else c.readBare p
      | _ => c.readBare p

/-- Reads a node unless it is left out, which one of `marks` shows. -/
def readUnless (marks : List Token) (block isPart : Bool) :
    Nat → Cursor → Except Fault (Node × Cursor)
  | 0, _ => .error .unexpectedToken
  | fuel + 1, c => if c.isAt marks then .ok (.missing, c) else readNode block isPart fuel c

/-- Reads the value of an entry; without its mark it is left out. -/
def readValue (marks : List Token) (block : Bool) : Nat → Cursor → Except Fault (Node × Cursor)
  | 0, _ => .error .unexpectedToken
  | fuel + 1, c =>
    match c.tokens with
    | .value :: rest => readUnless marks block block fuel (c.moveTo rest)
    | _ => .ok (.missing, c)

/-- Reads the items of a block sequence up to its end. -/
def readItems : Nat → Cursor → Except Fault (List Node × Cursor)
  | 0, _ => .error .unexpectedToken
  | fuel + 1, c =>
    match c.tokens with
    | .blockEntry :: rest => do
      let (item, c) ← readUnless [.blockEntry, .blockEnd] true false fuel (c.moveTo rest)
      let (items, c) ← readItems fuel c
      return (item :: items, c)
    | .blockEnd :: rest => .ok ([], c.moveTo rest)
    | _ => .error .unexpectedToken

/-- Reads the items of a block sequence that is not indented. -/
def readLooseItems : Nat → Cursor → Except Fault (List Node × Cursor)
  | 0, _ => .error .unexpectedToken
  | fuel + 1, c =>
    match c.tokens with
    | .blockEntry :: rest => do
      let (item, c) ←
        readUnless [.blockEntry, .key, .value, .blockEnd] true false fuel (c.moveTo rest)
      let (items, c) ← readLooseItems fuel c
      return (item :: items, c)
    | _ => .ok ([], c)

/-- Reads the entries of a block mapping up to its end. -/
def readEntries : Nat → Cursor → Except Fault (List (Node × Node) × Cursor)
  | 0, _ => .error .unexpectedToken
  | fuel + 1, c =>
    match c.tokens with
    | .key :: rest => do
      let (key, c) ← readUnless [.key, .value, .blockEnd] true true fuel (c.moveTo rest)
      let (value, c) ← readValue [.key, .value, .blockEnd] true fuel c
      let (entries, c) ← readEntries fuel c
      return ((key, value) :: entries, c)
    | .blockEnd :: rest => .ok ([], c.moveTo rest)
    | _ => .error .unexpectedToken

/-- Reads the items of a sequence in brackets. An item that is marked as a key is a mapping with one
    entry; if its key is left out, the mark that shows it is passed over. -/
def readFlowItems (isFirst : Bool) : Nat → Cursor → Except Fault (List Node × Cursor)
  | 0, _ => .error .unexpectedToken
  | fuel + 1, c =>
    match c.tokens with
    | .flowSequenceEnd :: rest => .ok ([], c.moveTo rest)
    | _ => do
      let c ← c.takeComma isFirst
      match c.tokens with
      | .flowSequenceEnd :: rest => return ([], c.moveTo rest)
      | .key :: rest =>
        let c := c.moveTo rest
        let (key, c) ←
          if c.isAt [.value, .flowEntry, .flowSequenceEnd] then
            pure (.missing, c.moveTo c.tokens.tail)
          else readNode false false fuel c
        let (value, c) ← readValue [.flowEntry, .flowSequenceEnd] false fuel c
        let (items, c) ← readFlowItems false fuel c
        return (.mapping ⟨none, none⟩ [(key, value)] :: items, c)
      | _ =>
        let (item, c) ← readNode false false fuel c
        let (items, c) ← readFlowItems false fuel c
        return (item :: items, c)

/-- Reads the entries of a mapping in braces. A node without a mark is a key without a value. -/
def readFlowEntries (isFirst : Bool) :
    Nat → Cursor → Except Fault (List (Node × Node) × Cursor)
  | 0, _ => .error .unexpectedToken
  | fuel + 1, c =>
    match c.tokens with
    | .flowMappingEnd :: rest => .ok ([], c.moveTo rest)
    | _ => do
      let c ← c.takeComma isFirst
      match c.tokens with
      | .flowMappingEnd :: rest => return ([], c.moveTo rest)
      | .key :: rest =>
        let (key, c) ←
          readUnless [.value, .flowEntry, .flowMappingEnd] false false fuel (c.moveTo rest)
        let (value, c) ← readValue [.flowEntry, .flowMappingEnd] false fuel c
        let (entries, c) ← readFlowEntries false fuel c
        return ((key, value) :: entries, c)
      | _ =>
        let (key, c) ← readNode false false fuel c
        let (entries, c) ← readFlowEntries false fuel c
        return ((key, .missing) :: entries, c)

end

end Cursor

end RemoteDesk.Yaml
