/-! # Faults of YAML texts -/

namespace RemoteDesk.Yaml

/-- Why a YAML text cannot be read as what is asked of it. -/
inductive Fault where
  | forbiddenCharacter
  /-- A character that starts no token. -/
  | strayCharacter
  | tabInIndentation
  /-- A quoted scalar that never ends, or that a document mark cuts. -/
  | unclosedQuote
  /-- A backslash in double quotes before something it does not escape. -/
  | unknownEscape
  /-- A directive that is malformed, repeated or of another version. -/
  | badDirective
  | badAnchor
  /-- A tag that is malformed, or whose handle is not defined. -/
  | badTag
  /-- A block scalar whose first line says something unknown. -/
  | badBlockHeader
  | missingColon
  /-- An entry, key or value mark where a block allows none. -/
  | misplacedMark
  /-- A token where the grammar has no place for it. -/
  | unexpectedToken
  | unknownAnchor
  | secondDocument
  /-- A node of a kind that is not asked for. -/
  | wrongKind
  /-- A field, or a key of a mapping, that occurs twice. -/
  | repeatedKey
  | tooDeep
  /-- Aliases that repeat too much. -/
  | tooManyAliases
  deriving Repr, DecidableEq

def Fault.message : Fault → String
  | .forbiddenCharacter => "control characters are not allowed"
  | .strayCharacter => "found a character that cannot start any token"
  | .tabInIndentation => "found a tab character that violates indentation"
  | .unclosedQuote => "found unexpected end of a quoted scalar"
  | .unknownEscape => "found unknown escape character"
  | .badDirective => "found an invalid directive"
  | .badAnchor => "did not find expected alphabetic or numeric character"
  | .badTag => "did not find a valid tag"
  | .badBlockHeader => "did not find expected comment or line break"
  | .missingColon => "could not find expected ':'"
  | .misplacedMark => "mapping values are not allowed in this context"
  | .unexpectedToken => "did not find expected node content"
  | .unknownAnchor => "unknown anchor"
  | .secondDocument => "deserializing from YAML containing more than one document is not supported"
  | .wrongKind => "invalid type"
  | .repeatedKey => "duplicate entry"
  | .tooDeep => "recursion limit exceeded"
  | .tooManyAliases => "repetition limit exceeded"

end RemoteDesk.Yaml
