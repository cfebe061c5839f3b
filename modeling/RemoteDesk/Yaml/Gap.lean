import RemoteDesk.Yaml.Character

/-! # Gaps between words

Words of a scalar that spans lines are parted by gaps of white space and line breaks. A gap within a
line stands for itself. A gap across lines is folded: a single line feed becomes a space, and of
several the first is dropped.
-/

namespace RemoteDesk.Yaml

/-- What stands between two words. -/
inductive Gap where
  /-- White space within a line, possibly none. -/
  | within (whites : List Char)
  /-- Line breaks, and the number of white characters after the last of them. -/
  | across (breaks : List Char) (column : Nat)
  /-- The same after an escaped line break, which is not among the breaks. -/
  | escaped (breaks : List Char) (column : Nat)
  deriving Repr, DecidableEq

namespace Gap

def empty : Gap := .within []

def white (c : Char) : Gap → Gap
  | .within whites => .within (whites ++ [c])
  | .across breaks column => .across breaks (column + 1)
  | .escaped breaks column => .escaped breaks (column + 1)

def newline (c : Char) : Gap → Gap
  | .within _ => .across [c] 0
  | .across breaks _ => .across (breaks ++ [c]) 0
  | .escaped breaks _ => .escaped (breaks ++ [c]) 0

/-- The column reached on a new line. -/
def column? : Gap → Option Nat
  | .within _ => none
  | .across _ column => some column
  | .escaped _ column => some column

/-- A new line has begun. -/
def isAcross (g : Gap) : Bool :=
  g.column?.isSome

/-- A new line has begun and is still before the given column. -/
def isBefore (g : Gap) (margin : Nat) : Bool :=
  g.column?.any (· < margin)

/-- What is read in place of a gap. -/
def text : Gap → List Char
  | .within whites => whites
  | .across ['\n'] _ => [' ']
  | .across ('\n' :: more) _ => more
  | .across breaks _ => breaks
  | .escaped breaks _ => breaks

end Gap

end RemoteDesk.Yaml
