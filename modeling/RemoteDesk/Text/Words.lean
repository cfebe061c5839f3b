/-! # Words of a typed line

A typed line is cut into words at spaces, tabs and line feeds. Single quotes take everything
literally, double quotes leave the backslash its power over a few characters, and a backslash
outside quotes makes the next character an ordinary one. Quoted and bare stretches that touch form
one word, so an empty pair of quotes is an empty word.

`split` reads a line and `quote` writes a word so that `split` gives it back.
-/

namespace RemoteDesk.Words

/-- Where the reader stands after a character. -/
inductive Place where
  /-- Between words. -/
  | gap
  /-- In a comment, which lasts to the end of the line. -/
  | comment
  /-- In a word, outside quotes. -/
  | bare
  /-- After a backslash outside quotes, where a word has not yet started. -/
  | gapEscape
  /-- After a backslash outside quotes, inside a word. -/
  | bareEscape
  | single
  | double
  /-- After a backslash inside double quotes. -/
  | doubleEscape
  deriving Repr, DecidableEq

/-- The characters that separate words. -/
def isSeparator (c : Char) : Bool :=
  c == ' ' || c == '\t' || c == '\n'

/-- The characters that a backslash makes ordinary inside double quotes. -/
def isDoubleEscapable (c : Char) : Bool :=
  c == '$' || c == '\x60' || c == '"' || c == '\\'

/-- Reads on from `place` with `word` as the characters of the open word, last one first. The
    answer is `none` when a quote is never closed. -/
def splitFrom : Place → List Char → List Char → Option (List (List Char))
  | .gap, _, [] => some []
  | .gap, _, c :: rest =>
    if c = '\'' then splitFrom .single [] rest
    else if c = '"' then splitFrom .double [] rest
    else if c = '\\' then splitFrom .gapEscape [] rest
    else if isSeparator c then splitFrom .gap [] rest
    else if c = '#' then splitFrom .comment [] rest
    else splitFrom .bare [c] rest
  | .comment, _, [] => some []
  | .comment, _, c :: rest => splitFrom (if c = '\n' then .gap else .comment) [] rest
  | .bare, word, [] => some [word.reverse]
  | .bare, word, c :: rest =>
    if c = '\'' then splitFrom .single word rest
    else if c = '"' then splitFrom .double word rest
    else if c = '\\' then splitFrom .bareEscape word rest
    else if isSeparator c then (splitFrom .gap [] rest).map (word.reverse :: ·)
    else splitFrom .bare (c :: word) rest
  | .gapEscape, _, [] => some [['\\']]
  | .gapEscape, _, c :: rest =>
    if c = '\n' then splitFrom .gap [] rest else splitFrom .bare [c] rest
  | .bareEscape, word, [] => some [('\\' :: word).reverse]
  | .bareEscape, word, c :: rest =>
    if c = '\n' then splitFrom .bare word rest else splitFrom .bare (c :: word) rest
  | .single, _, [] => none
  | .single, word, c :: rest =>
    if c = '\'' then splitFrom .bare word rest else splitFrom .single (c :: word) rest
  | .double, _, [] => none
  | .double, word, c :: rest =>
    if c = '"' then splitFrom .bare word rest
    else if c = '\\' then splitFrom .doubleEscape word rest
    else splitFrom .double (c :: word) rest
  | .doubleEscape, _, [] => none
  | .doubleEscape, word, c :: rest =>
    if c = '\n' then splitFrom .double word rest
    else if isDoubleEscapable c then splitFrom .double (c :: word) rest
    else splitFrom .double (c :: '\\' :: word) rest

/-- The words of a line, or `none` when a quote is never closed. -/
def split (line : String) : Option (List String) :=
  (splitFrom .gap [] line.toList).map (·.map String.ofList)

/-- Writes a word inside single quotes; a single quote of the word closes them, stands escaped and
    opens them again. -/
def quote (word : String) : String :=
  String.ofList ('\'' :: word.toList.flatMap
    (fun c => if c = '\'' then ['\'', '\\', '\'', '\''] else [c]) ++ ['\''])

end RemoteDesk.Words
