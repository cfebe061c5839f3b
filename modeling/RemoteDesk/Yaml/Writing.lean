import RemoteDesk.Yaml.Meaning
import RemoteDesk.Yaml.Token

/-! # Writing YAML texts

A text is written as a scalar that reads back as the same text: plain where a plain scalar would say
just that text, as a literal block if it has line feeds, and otherwise in single quotes. Where none of
these can hold all of its characters it stands in double quotes, with escapes.
-/

namespace RemoteDesk.Yaml.Writing

/-- How far the lines of a scalar are indented. -/
def indentation : List Char := [' ', ' ']

/-- Somewhere a character of one class is followed by one of another. -/
def hasPair (p q : Char → Bool) : List Char → Bool
  | a :: b :: rest => (p a && q b) || hasPair p q (b :: rest)
  | _ => false

def isSpace (c : Char) : Bool :=
  c == ' '

/-- Has a colon that ends a word or a comment sign that starts one. -/
def hasMark (afterWord : Bool) : List Char → Bool
  | [] => false
  | c :: rest =>
    (c == ':' && wordEnds rest) || (c == '#' && afterWord)
      || hasMark (isWhite c || isBreak c) rest

/-- The first characters mean something else than a plain scalar. -/
def startsMarked : List Char → Bool
  | '-' :: '-' :: '-' :: _ => true
  | '.' :: '.' :: '.' :: _ => true
  | [] => true
  | c :: rest =>
    if c == '-' || c == '?' || c == ':' then wordEnds rest else isIndicator c

/-- Can be written without quotes on one line. -/
def fitsPlain (cs : List Char) : Bool :=
  !startsMarked cs && !hasMark true cs && cs.all (fun c => isPrintable c && !isBreak c)
    && cs.head? != some ' ' && cs.getLast? != some ' '

/-- Can be written in single quotes. -/
def fitsSingle (cs : List Char) : Bool :=
  cs.all isPrintable && !hasPair isBreak isSpace cs && !hasPair isSpace isBreak cs

/-- Can be written as a literal block. -/
def fitsLiteral (cs : List Char) : Bool :=
  cs.all isPrintable && !hasPair isSpace isBreak cs && cs.getLast? != some ' '

/-- The way in which a text is written. -/
def style (s : String) : Style :=
  let cs := s.toList
  if '\n' ∈ cs then if fitsLiteral cs then .literal else .double
  else if Meaning.ofText s = .text ∧ !Meaning.isPadded cs ∧ fitsPlain cs then .plain
  else if fitsSingle cs then .single
  else .double

/-- Indents every line that is not empty; the first character starts a line or not. -/
def indentLines (startsLine : Bool) : List Char → List Char
  | [] => []
  | c :: rest =>
    if isBreak c then c :: indentLines true rest
    else (if startsLine then indentation else []) ++ c :: indentLines false rest

/-- A text in single quotes. A line break is followed by indentation. -/
def single (cs : List Char) : List Char :=
  let doubled := cs.flatMap fun c => if c = '\'' then ['\'', '\''] else [c]
  let margin := if cs.getLast?.any isBreak then indentation else []
  '\'' :: indentLines false doubled ++ margin ++ ['\'']

def hexDigit (n : Nat) : Char :=
  if n < 10 then Char.ofNat (48 + n) else Char.ofNat (55 + n)

/-- The last digits of a number in base sixteen. -/
def hexDigits (n : Nat) : Nat → List Char
  | 0 => []
  | count + 1 => hexDigits (n / 16) count ++ [hexDigit (n % 16)]

/-- The letter that stands for a character after a backslash. -/
def letter? (c : Char) : Option Char :=
  match c with
  | '\x00' => some '0'
  | '\x07' => some 'a'
  | '\x08' => some 'b'
  | '\t' => some 't'
  | '\n' => some 'n'
  | '\x0b' => some 'v'
  | '\x0c' => some 'f'
  | '\r' => some 'r'
  | '\x1b' => some 'e'
  | '"' => some '"'
  | '\\' => some '\\'
  | '\u0085' => some 'N'
  | '\u2028' => some 'L'
  | '\u2029' => some 'P'
  | _ => none

def doubleChar (c : Char) : List Char :=
  match letter? c with
  | some letter => ['\\', letter]
  | none =>
    if isPrintable c then [c]
    else if c.toNat < 0x100 then ['\\', 'x'] ++ hexDigits c.toNat 2
    else if c.toNat < 0x10000 then ['\\', 'u'] ++ hexDigits c.toNat 4
    else ['\\', 'U'] ++ hexDigits c.toNat 8

def double (cs : List Char) : List Char :=
  '"' :: cs.flatMap doubleChar ++ ['"']

/-- What the first line of a literal block says after its mark: how far it is indented if the text
    does not show it, and what becomes of the line breaks at its end. -/
def literalHints (cs : List Char) : List Char :=
  let indent := if cs.head?.any fun c => c == ' ' || isBreak c then ['2'] else []
  let chomp :=
    match cs.reverse with
    | [] => ['-']
    | last :: before =>
      if !isBreak last then ['-']
      else if before.head?.all isBreak then ['+']
      else []
  indent ++ chomp

/-- A text as a literal block, with the line feed that ends its last line. -/
def literal (cs : List Char) : List Char :=
  '|' :: literalHints cs ++ '\n' :: indentLines true cs
    ++ (if cs.getLast?.any isBreak then [] else ['\n'])

/-- A text as a scalar, with the line feed that ends its last line. -/
def scalar (s : String) : List Char :=
  match style s with
  | .literal => literal s.toList
  | .single => single s.toList ++ ['\n']
  | .double => double s.toList ++ ['\n']
  | _ => s.toList ++ ['\n']

def field (name : String) (value : List Char) : List Char :=
  name.toList ++ ':' :: ' ' :: value

def textField (name value : String) : List Char :=
  field name (scalar value)

/-- A field that says a truth value or a number by a word. -/
def wordField (name word : String) : List Char :=
  field name (word.toList ++ ['\n'])

end RemoteDesk.Yaml.Writing
