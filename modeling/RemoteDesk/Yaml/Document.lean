import RemoteDesk.Yaml.Node
import RemoteDesk.Yaml.Token.Lexer

/-! # YAML documents

A text holds one document at most. Before it there may be directives, each said once. An alias stands
for the node that got its number last, in the order in which nodes start.
-/

namespace RemoteDesk.Yaml

structure Document where
  root : Node

namespace Document

/-- The node that aliases with a number stand for. -/
def anchored? (d : Document) (number : Nat) : Option Node :=
  d.root.anchored.reverse.lookup number

/-- The handles that need no directive. -/
def standardHandles : List (String × Bytes) :=
  [("!", Utf8.encode "!"), ("!!", Utf8.encode "tag:yaml.org,2002:")]

/-- Reads the directives before a document, where some were read already; the answer is the handles
    that they define. -/
def readDirectives (versioned : Bool) (handles : List (String × Bytes)) :
    List Token → Except Fault (List (String × Bytes) × List Token)
  | .version major minor :: rest =>
    if versioned || major ≠ 1 || (minor ≠ 1 && minor ≠ 2) then .error .badDirective
    else readDirectives true handles rest
  | .handle name meaning :: rest =>
    if (handles.lookup name).isSome then .error .badDirective
    else readDirectives versioned (handles ++ [(name, meaning)]) rest
  | rest => .ok (handles, rest)

/-- A token with which the content of a document cannot start: it belongs to the next document. -/
def isOutside : Token → Bool
  | .version .. | .handle .. | .documentStart | .documentEnd => true
  | _ => false

/-- Reads the content of a document, which may be missing after its mark. -/
def readContent (handles : List (String × Bytes)) (mayMiss : Bool) (tokens : List Token) :
    Except Fault (Node × List Token) :=
  if mayMiss && tokens.head?.all isOutside then .ok (.missing, tokens)
  else do
    let cursor : Cursor := ⟨tokens, handles ++ standardHandles, []⟩
    let (node, cursor) ← cursor.readNode true false (4 * tokens.length + 4)
    return (node, cursor.tokens)

/-- A token that starts a document with directives or a mark. -/
def isOpening : Token → Bool
  | .version .. | .handle .. | .documentStart => true
  | _ => false

/-- The document that tokens make up. There is none if there are no tokens. -/
def ofTokens? (tokens : List Token) : Except Fault (Option Document) := do
  if tokens = [] then return none
  let (root, rest) ←
    if tokens.head?.any isOpening then
      match ← readDirectives false [] tokens with
      | (handles, .documentStart :: rest) => readContent handles true rest
      | _ => throw .unexpectedToken
    else readContent [] false tokens
  if rest.all (· = .documentEnd) then return some ⟨root⟩ else throw .secondDocument

def parse? (text : String) : Except Fault (Option Document) := do
  ofTokens? (← Token.ofText text.toList)

end Document

end RemoteDesk.Yaml
