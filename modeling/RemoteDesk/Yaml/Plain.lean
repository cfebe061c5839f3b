import RemoteDesk.Yaml.Fault
import RemoteDesk.Yaml.Gap

/-! # Plain scalars

A plain scalar has no quotes. It ends where its surroundings go on: at a colon that ends a word, at a
comment, at a line that is indented too little, at a document mark, and among brackets at whatever
delimits their items.
-/

namespace RemoteDesk.Yaml.Plain

/-- A plain scalar as far as it goes. -/
structure Reading where
  text : List Char
  rest : List Char
  /-- The scalar ended after a line break. -/
  isOverLines : Bool
  deriving Repr, DecidableEq

/-- A word after the gap `g` does not belong to the scalar. -/
def stopsAfter (flow : Bool) (margin : Nat) (g : Gap) (cs : List Char) : Bool :=
  g != .empty && (cs.head? == some '#' || (g.isBefore 1 && isDocumentMark cs)
    || (!flow && g.isBefore margin))

/-- A colon among brackets that delimits nothing and may not stand here. -/
def isStrayColon (flow : Bool) (c : Char) (rest : List Char) : Bool :=
  flow && c == ':' && rest.head?.any fun d => d == '?' || isFlowIndicator d

/-- A character that ends a scalar even within a word. -/
def stopsAt (flow : Bool) (c : Char) (rest : List Char) : Bool :=
  (c == ':' && wordEnds rest) || (flow && isFlowIndicator c)

/-- Reads a plain scalar after the gap `g`. Its later lines are indented by `margin` at least, unless
    it stands among brackets, as `flow` says. -/
def read (flow : Bool) (margin : Nat) (g : Gap) : List Char → Except Fault Reading
  | [] => .ok ⟨[], [], g.isAcross⟩
  | c :: rest =>
    if isWhite c then
      if c = '\t' ∧ g.isBefore margin then .error .tabInIndentation
      else read flow margin (g.white c) rest
    else if isBreak c then read flow margin (g.newline c) rest
    else if stopsAfter flow margin g (c :: rest) then .ok ⟨[], c :: rest, g.isAcross⟩
    else if isStrayColon flow c rest then .error .strayCharacter
    else if stopsAt flow c rest then .ok ⟨[], c :: rest, g.isAcross⟩
    else
      match read flow margin .empty rest with
      | .error e => .error e
      | .ok more => .ok { more with text := g.text ++ c :: more.text }

end RemoteDesk.Yaml.Plain
