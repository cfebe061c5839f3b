import RemoteDesk.Text.Utf8

/-! # Tokens of YAML texts

The words and marks of a YAML text in order, with marks of their own where indentation begins or ends
a collection.
-/

namespace RemoteDesk.Yaml

/-- How a scalar is written. -/
inductive Style where
  | plain
  | single
  | double
  | literal
  | folded
  deriving Repr, DecidableEq

/-- A word or mark of a YAML text. -/
inductive Token where
  /-- The version that a text claims to follow. -/
  | version (major minor : Nat)
  /-- A handle for tags and what it stands for. -/
  | handle (name : String) (meaning : Bytes)
  | documentStart
  | documentEnd
  | blockSequence
  | blockMapping
  /-- The end of a block, by indentation. -/
  | blockEnd
  | flowSequence
  | flowSequenceEnd
  | flowMapping
  | flowMappingEnd
  | blockEntry
  | flowEntry
  | key
  | value
  | alias (name : String)
  | anchor (name : String)
  /-- A tag by its handle, which is empty for a tag given in full, and what follows the handle. -/
  | tag (handle : String) (suffix : Bytes)
  | scalar (style : Style) (text : String)
  deriving Repr, DecidableEq

end RemoteDesk.Yaml
