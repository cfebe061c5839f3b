import RemoteDesk.Yaml.Block
import RemoteDesk.Yaml.Plain
import RemoteDesk.Yaml.Quoted
import RemoteDesk.Yaml.Tag

/-! # Finding the tokens of a YAML text

The tokens are found from left to right. Two things need a memory. Indentation opens and closes blocks,
so the columns of the open blocks are kept. And a key without a mark of its own shows itself only at
the colon behind it, so the place where such a key may have started is kept, one for the block and
one for each pair of brackets around the current place; at the colon, the marks that the key lacks
are put in before it. Such a key is on one line and not longer than `Candidate.reach`.
-/

namespace RemoteDesk.Yaml

/-- A place in a text. -/
structure Position where
  line : Nat
  column : Nat
  deriving Repr, DecidableEq

/-- The place after some more characters. -/
def Position.after (p : Position) : List Char → Position
  | [] => p
  | c :: rest =>
    Position.after (if isBreak c then ⟨p.line + 1, 0⟩ else ⟨p.line, p.column + 1⟩) rest

/-- Where a key may have started. -/
structure Candidate where
  /-- How many tokens come before it. -/
  index : Nat
  position : Position
  /-- Whatever stands here must be a key. -/
  required : Bool
  deriving Repr, DecidableEq

namespace Candidate

/-- The most characters from the start of a key to its colon. -/
def reach : Nat := 1024

/-- A colon at `p` is too far away. -/
def isStale (k : Candidate) (p : Position) : Bool :=
  k.position.line < p.line || k.position.column + reach < p.column

end Candidate

/-- The tokens found so far, and all that finding more depends on. -/
structure Lexer where
  /-- The text that is still to be read. -/
  rest : List Char
  /-- Where that text starts. -/
  position : Position
  /-- The tokens found, last first. -/
  tokens : List Token
  /-- The columns of the open blocks, innermost first. -/
  blocks : List Nat
  /-- Where a key may have started. -/
  candidate : Option Candidate
  /-- The same for what is around each open bracket, innermost first. -/
  outer : List (Option Candidate)
  /-- A key without a mark may start here. -/
  keyAllowed : Bool
  deriving Repr, DecidableEq

namespace Lexer

def start (text : List Char) : Lexer :=
  { rest := text, position := ⟨0, 0⟩, tokens := [], blocks := [], candidate := none, outer := []
    keyAllowed := true }

def inFlow (l : Lexer) : Bool :=
  !l.outer.isEmpty

/-- The least column that is inside the innermost block. -/
def margin (l : Lexer) : Nat :=
  match l.blocks with
  | [] => 0
  | column :: _ => column + 1

/-- Moves on to `rest`, which ends the text that is still to be read. -/
def moveTo (l : Lexer) (rest : List Char) : Lexer :=
  { l with
    rest
    position := l.position.after (l.rest.take (l.rest.length - rest.length)) }

def push (l : Lexer) (t : Token) : Lexer :=
  { l with tokens := t :: l.tokens }

/-- Adds a token and moves on behind it. -/
def take (l : Lexer) (t : Token) (rest : List Char) : Lexer :=
  (l.moveTo rest).push t

/-! ## Keys -/

/-- Gives up the place where a key may have started. -/
def dropKey (l : Lexer) : Except Fault Lexer :=
  if l.candidate.any (·.required) then .error .missingColon else .ok { l with candidate := none }

/-- Notes that a key may start here. A key is required where a block of keys goes on. -/
def offerKey (l : Lexer) : Except Fault Lexer :=
  if l.keyAllowed then do
    let l ← l.dropKey
    let required := !l.inFlow && l.blocks.head? == some l.position.column
    return { l with candidate := some ⟨l.tokens.length, l.position, required⟩ }
  else .ok l

/-- A place where a key may have started, unless the colon would be too far away by now. -/
def stillFresh (p : Position) : Option Candidate → Except Fault (Option Candidate)
  | none => .ok none
  | some k =>
    if k.isStale p then if k.required then .error .missingColon else .ok none else .ok (some k)

/-! ## Blocks -/

/-- Opens a block at a column, unless the innermost one stands there or behind it. -/
def openBlock (l : Lexer) (column : Nat) (t : Token) : Lexer :=
  if l.inFlow || column < l.margin then l else { l.push t with blocks := column :: l.blocks }

/-- Closes the innermost blocks as long as they are among `closing`; brackets are not closed so. -/
def closeBlocks (l : Lexer) (closing : Nat → Bool) : Lexer :=
  if l.inFlow then l
  else
    let closed := l.blocks.takeWhile closing
    { l with
      blocks := l.blocks.drop closed.length
      tokens := closed.map (fun _ => .blockEnd) ++ l.tokens }

/-! ## Between tokens -/

/-- Skips white space, comments and line breaks from a column on. A tab may stand where no key may
    start and among brackets. After a line break in a block, a key may start again; the answer says
    whether one may. -/
def skip (flow : Bool) (column : Nat) (keyAllowed inComment : Bool) :
    List Char → Bool × List Char
  | [] => (keyAllowed, [])
  | c :: rest =>
    if isBreak c then skip flow 0 (keyAllowed || !flow) false rest
    else if inComment then skip flow (column + 1) keyAllowed true rest
    else if c = ' ' ∨ (c = '\t' ∧ (flow ∨ !keyAllowed)) ∨ (c = byteOrderMark ∧ column = 0) then
      skip flow (column + 1) keyAllowed false rest
    else if c = '#' then skip flow (column + 1) keyAllowed true rest
    else (keyAllowed, c :: rest)

/-- Moves on to where the next token starts. Blocks that are indented more than it are closed. -/
def settle (l : Lexer) : Except Fault Lexer := do
  let (keyAllowed, rest) := skip l.inFlow l.position.column l.keyAllowed false l.rest
  let l := { l.moveTo rest with keyAllowed }
  let candidate ← stillFresh l.position l.candidate
  let outer ← l.outer.mapM (stillFresh l.position)
  return { l with candidate, outer }.closeBlocks (l.position.column < ·)

/-! ## Single tokens -/

def directive (l : Lexer) (after : List Char) : Except Fault Lexer := do
  let l ← (l.closeBlocks fun _ => true).dropKey
  let (token, rest) ← Directive.read after
  return { l.take token rest with keyAllowed := false }

def documentMark (l : Lexer) (first : Char) : Except Fault Lexer := do
  let l ← (l.closeBlocks fun _ => true).dropKey
  let token := if first = '-' then .documentStart else .documentEnd
  return { l.take token (l.rest.drop 3) with keyAllowed := false }

def openFlow (l : Lexer) (t : Token) (after : List Char) : Except Fault Lexer := do
  let l ← l.offerKey
  return { l.take t after with
    candidate := none, outer := l.candidate :: l.outer, keyAllowed := true }

def closeFlow (l : Lexer) (t : Token) (after : List Char) : Except Fault Lexer := do
  let l ← l.dropKey
  let l := { l.take t after with keyAllowed := false }
  match l.outer with
  | [] => return l
  | candidate :: outer => return { l with candidate, outer }

def separate (l : Lexer) (after : List Char) : Except Fault Lexer := do
  let l ← l.dropKey
  return { l.take .flowEntry after with keyAllowed := true }

/-- Opens a block for a mark at the current place, where a block must be allowed. -/
def openHere (l : Lexer) (t : Token) : Except Fault Lexer :=
  if l.inFlow then .ok l
  else if l.keyAllowed then .ok (l.openBlock l.position.column t)
  else .error .misplacedMark

def itemMark (l : Lexer) (after : List Char) : Except Fault Lexer := do
  let l ← l.openHere .blockSequence
  let l ← l.dropKey
  return { l.take .blockEntry after with keyAllowed := true }

def keyMark (l : Lexer) (after : List Char) : Except Fault Lexer := do
  let l ← l.openHere .blockMapping
  let l ← l.dropKey
  return { l.take .key after with keyAllowed := !l.inFlow }

/-- Puts the marks of a key before it, where it started. -/
def markKey (l : Lexer) (k : Candidate) : Lexer :=
  let later := l.tokens.take (l.tokens.length - k.index)
  let marked :=
    { l with tokens := l.tokens.drop later.length }.openBlock k.position.column .blockMapping
  { marked with tokens := later ++ .key :: marked.tokens, candidate := none, keyAllowed := false }

def valueMark (l : Lexer) (after : List Char) : Except Fault Lexer :=
  match l.candidate with
  | some k => .ok ((l.markKey k).take .value after)
  | none => do
    let l ← l.openHere .blockMapping
    return { l.take .value after with keyAllowed := !l.inFlow }

/-- A token that a key may start with. -/
def offer (l : Lexer) (t : Token) (after : List Char) : Except Fault Lexer := do
  let l ← l.offerKey
  return { l.take t after with keyAllowed := false }

/-- What may follow the name of an anchor or alias. -/
def nameEnds (cs : List Char) : Bool :=
  wordEnds cs || cs.head?.any (· ∈ ['?', ':', ',', ']', '\x7d', '%', '@', '\x60'])

def name (l : Lexer) (t : String → Token) (after : List Char) : Except Fault Lexer :=
  let name := after.takeWhile isNameChar
  let rest := after.dropWhile isNameChar
  if name = [] ∨ !nameEnds rest then .error .badAnchor
  else l.offer (t (String.ofList name)) rest

def tag (l : Lexer) : Except Fault Lexer := do
  let (token, after) ← Tag.read l.rest
  if wordEnds after || (l.inFlow && after.head? == some ',') then l.offer token after
  else throw .badTag

def block (l : Lexer) (style : Style) (after : List Char) : Except Fault Lexer := do
  let l ← l.dropKey
  let (text, rest) ← Block.read (style = .folded) (l.blocks.headD 0) l.margin after
  return { l.take (.scalar style (String.ofList text)) rest with keyAllowed := true }

def quoted (l : Lexer) (style : Style) (found : Except Fault (List Char × List Char)) :
    Except Fault Lexer := do
  let (text, rest) ← found
  l.offer (.scalar style (String.ofList text)) rest

def plain (l : Lexer) : Except Fault Lexer := do
  let found ← Plain.read l.inFlow l.margin .empty l.rest
  let l ← l.offer (.scalar .plain (String.ofList found.text)) found.rest
  return { l with keyAllowed := found.isOverLines }

/-- A plain scalar may start here. -/
def startsPlain (flow : Bool) (c : Char) (after : List Char) : Bool :=
  (!isWhite c && !isBreak c && !isIndicator c) || (c == '-' && !after.head?.any isWhite)
    || (!flow && (c == '?' || c == ':') && !wordEnds after)

def token (l : Lexer) (c : Char) (after : List Char) : Except Fault Lexer :=
  let startsLine := l.position.column = 0
  if startsLine ∧ c = '%' then l.directive after
  else if startsLine ∧ isDocumentMark (c :: after) then l.documentMark c
  else if c = '[' then l.openFlow .flowSequence after
  else if c = '\x7b' then l.openFlow .flowMapping after
  else if c = ']' then l.closeFlow .flowSequenceEnd after
  else if c = '\x7d' then l.closeFlow .flowMappingEnd after
  else if c = ',' then l.separate after
  else if c = '-' ∧ wordEnds after then l.itemMark after
  else if c = '?' ∧ (l.inFlow ∨ wordEnds after) then l.keyMark after
  else if c = ':' ∧ (l.inFlow ∨ wordEnds after) then l.valueMark after
  else if c = '*' then l.name .alias after
  else if c = '&' then l.name .anchor after
  else if c = '!' then l.tag
  else if c = '|' ∧ !l.inFlow then l.block .literal after
  else if c = '>' ∧ !l.inFlow then l.block .folded after
  else if c = '\'' then l.quoted .single (Quoted.readSingle .empty after)
  else if c = '"' then l.quoted .double (Quoted.readDouble .empty 0 0 after)
  else if startsPlain l.inFlow c after then l.plain
  else .error .strayCharacter

/-- Closes what is open at the end of the text. -/
def finish (l : Lexer) : Except Fault (List Token) := do
  let l ← (l.closeBlocks fun _ => true).dropKey
  return l.tokens.reverse

/-- Finds tokens to the end of the text; each is at least one character long, so `fuel` is only to
    exceed the length of the text. -/
def run : Nat → Lexer → Except Fault (List Token)
  | 0, l => l.finish
  | fuel + 1, l => do
    let l ← l.settle
    match l.rest with
    | [] => l.finish
    | c :: after => run fuel (← l.token c after)

end Lexer

def Token.ofText (text : List Char) : Except Fault (List Token) :=
  if text.all isAllowed then
    let text := joinBreaks text
    (Lexer.start text).run (text.length + 1)
  else .error .forbiddenCharacter

end RemoteDesk.Yaml
