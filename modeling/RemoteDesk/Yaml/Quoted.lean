import RemoteDesk.Yaml.Fault
import RemoteDesk.Yaml.Gap

/-! # Quoted scalars

In single quotes a doubled quote stands for a quote and all else for itself. In double quotes a
backslash starts an escape; before a line break it joins the lines. Either way gaps across lines are
folded, and a document mark may not stand at the start of a line.
-/

namespace RemoteDesk.Yaml.Quoted

/-- A document mark at the start of a line cuts the scalar. -/
def isCut (g : Gap) (cs : List Char) : Bool :=
  g.isBefore 1 && isDocumentMark cs

/-- Reads a scalar in single quotes after the gap `g`, up to and including its closing quote. -/
def readSingle (g : Gap) : List Char → Except Fault (List Char × List Char)
  | [] => .error .unclosedQuote
  | c :: rest =>
    if isWhite c then readSingle (g.white c) rest
    else if isBreak c then readSingle (g.newline c) rest
    else if isCut g (c :: rest) then .error .unclosedQuote
    else if c = '\'' then
      match rest with
      | '\'' :: rest =>
        match readSingle .empty rest with
        | .error e => .error e
        | .ok (text, after) => .ok (g.text ++ '\'' :: text, after)
      | _ => .ok (g.text, rest)
    else
      match readSingle .empty rest with
      | .error e => .error e
      | .ok (text, after) => .ok (g.text ++ c :: text, after)

/-- What a letter after a backslash stands for. -/
def escaped? (c : Char) : Option Char :=
  match c with
  | '0' => some '\x00'
  | 'a' => some '\x07'
  | 'b' => some '\x08'
  | 't' | '\t' => some '\t'
  | 'n' => some '\n'
  | 'v' => some '\x0b'
  | 'f' => some '\x0c'
  | 'r' => some '\r'
  | 'e' => some '\x1b'
  | ' ' => some ' '
  | '"' => some '"'
  | '/' => some '/'
  | '\\' => some '\\'
  | 'N' => some '\u0085'
  | '_' => some '\u00a0'
  | 'L' => some '\u2028'
  | 'P' => some '\u2029'
  | _ => none

/-- How many digits of base sixteen follow a letter after a backslash. -/
def hexDigits (c : Char) : Nat :=
  match c with
  | 'x' => 2
  | 'u' => 4
  | 'U' => 8
  | _ => 0

/-- The character with a number, if there is one. -/
def charOf? (n : Nat) : Option Char :=
  if n.isValidChar then some (Char.ofNat n) else none

/-- Reads a scalar in double quotes after the gap `g`, up to and including its closing quote. While
    `pending` is not zero, so many digits of the number `code` are still to come. -/
def readDouble (g : Gap) (pending code : Nat) : List Char → Except Fault (List Char × List Char)
  | [] => .error .unclosedQuote
  | c :: rest =>
    if 0 < pending then
      match hexValue? c with
      | none => .error .unknownEscape
      | some digit =>
        let code := code * 16 + digit
        if 1 < pending then readDouble g (pending - 1) code rest
        else
          match charOf? code with
          | none => .error .unknownEscape
          | some d => extend g d (readDouble .empty 0 0 rest)
    else if isWhite c then readDouble (g.white c) 0 0 rest
    else if isBreak c then readDouble (g.newline c) 0 0 rest
    else if isCut g (c :: rest) then .error .unclosedQuote
    else if c = '"' then .ok (g.text, rest)
    else if c = '\\' then
      match rest with
      | [] => .error .unclosedQuote
      | e :: rest =>
        if isBreak e then
          match readDouble (.escaped [] 0) 0 0 rest with
          | .error e => .error e
          | .ok (text, after) => .ok (g.text ++ text, after)
        else if 0 < hexDigits e then readDouble g (hexDigits e) 0 rest
        else
          match escaped? e with
          | none => .error .unknownEscape
          | some d => extend g d (readDouble .empty 0 0 rest)
    else extend g c (readDouble .empty 0 0 rest)
where
  /-- A gap and a character before what is read after them. -/
  extend (g : Gap) (c : Char) :
      Except Fault (List Char × List Char) → Except Fault (List Char × List Char)
    | .error e => .error e
    | .ok (text, after) => .ok (g.text ++ c :: text, after)

end RemoteDesk.Yaml.Quoted
