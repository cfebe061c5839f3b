/-! # Characters of YAML texts

Which characters a YAML text may contain, and which of them part words and lines. The pair of carriage
return and line feed, a lone carriage return and the next-line character all mean what a line feed
means, so a text is read as if it had line feeds in their place. The line and paragraph separators end
lines too, but stay what they are.
-/

namespace RemoteDesk.Yaml

/-- Ends a line. -/
def isBreak (c : Char) : Bool :=
  c == '\n' || c == '\u2028' || c == '\u2029'

/-- Parts words on a line. -/
def isWhite (c : Char) : Bool :=
  c == ' ' || c == '\t'

/-- No word goes on: the text is over, or a word or line ends here. -/
def wordEnds : List Char → Bool
  | [] => true
  | c :: _ => isWhite c || isBreak c

/-- Marks the byte order at the start of a line; it means nothing. -/
def byteOrderMark : Char := '\ufeff'

/-- May occur in a YAML text. -/
def isAllowed (c : Char) : Bool :=
  let n := c.toNat
  n == 0x09 || n == 0x0a || n == 0x0d || (0x20 ≤ n && n ≤ 0x7e) || n == 0x85
    || (0xa0 ≤ n && n ≤ 0xd7ff) || (0xe000 ≤ n && n ≤ 0xfffd) || 0x10000 ≤ n

/-- May be written without an escape. -/
def isPrintable (c : Char) : Bool :=
  let n := c.toNat
  n == 0x0a || (0x20 ≤ n && n ≤ 0x7e) || (0xa0 ≤ n && n ≤ 0xd7ff)
    || (0xe000 ≤ n && n ≤ 0xfffd && n != 0xfeff) || 0x10000 ≤ n

/-- May occur in names of anchors, directives and tag handles. -/
def isNameChar (c : Char) : Bool :=
  c.isAlphanum || c == '_' || c == '-'

/-- Has a meaning of its own where a node starts. -/
def isIndicator (c : Char) : Bool :=
  c ∈ ['-', '?', ':', ',', '[', ']', '\x7b', '\x7d', '#', '&', '*', '!', '|', '>', '\'', '"', '%',
    '@', '\x60']

/-- Delimits collections in brackets and braces. -/
def isFlowIndicator (c : Char) : Bool :=
  c ∈ [',', '[', ']', '\x7b', '\x7d']

/-- Writes a line feed for what means one. -/
def joinBreaks : List Char → List Char
  | [] => []
  | '\r' :: '\n' :: rest => '\n' :: joinBreaks rest
  | c :: rest => (if c = '\r' ∨ c = '\u0085' then '\n' else c) :: joinBreaks rest

/-- A line that starts or ends a document: three hyphens or dots on their own. -/
def isDocumentMark : List Char → Bool
  | '-' :: '-' :: '-' :: rest => wordEnds rest
  | '.' :: '.' :: '.' :: rest => wordEnds rest
  | _ => false

/-- What follows the line, if only white space and a comment are left on it. -/
def afterLine? (cs : List Char) : Option (List Char) :=
  match cs.dropWhile isWhite with
  | [] => some []
  | c :: rest =>
    if isBreak c then some rest
    else if c = '#' then some ((c :: rest).dropWhile (!isBreak ·)).tail
    else none

/-- The value of a digit of base sixteen. -/
def hexValue? (c : Char) : Option Nat :=
  if '0' ≤ c ∧ c ≤ '9' then some (c.toNat - 48)
  else if 'a' ≤ c ∧ c ≤ 'f' then some (c.toNat - 87)
  else if 'A' ≤ c ∧ c ≤ 'F' then some (c.toNat - 55)
  else none

end RemoteDesk.Yaml
