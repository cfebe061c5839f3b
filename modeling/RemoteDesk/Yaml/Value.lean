import RemoteDesk.Decimal.Shortest
import RemoteDesk.Text.Shown
import RemoteDesk.Yaml.Meaning

/-! # Values of YAML nodes

What a node says, whatever way it is written. Two values are the same if they say the same: the order
of entries does not count, both zeros are one number, and what is not a number is the same as itself.
-/

namespace RemoteDesk.Yaml

/-- What a node says. -/
inductive Value where
  | null
  | bool (b : Bool)
  | whole (n : Int)
  | double (x : Double)
  | string (s : String)
  | sequence (items : List Value)
  | mapping (entries : List (Value × Value))
  /-- A value with a tag of the document's own. -/
  | tagged (tag : String) (value : Value)

namespace Value

/-- Two doubles are the same number, or neither is one. -/
def sameDouble (x y : Double) : Bool :=
  x == y || (x.isZero && y.isZero) || (x.isNaN && y.isNaN)

mutual

def same : Value → Value → Bool
  | .null, .null => true
  | .bool a, .bool b => a == b
  | .whole a, .whole b => a == b
  | .double a, .double b => sameDouble a b
  | .string a, .string b => a == b
  | .sequence as, .sequence bs => sameItems as bs
  | .mapping as, .mapping bs => as.length == bs.length && amongEntries as bs
  | .tagged t a, .tagged u b => t == u && same a b
  | _, _ => false

def sameItems : List Value → List Value → Bool
  | [], [] => true
  | a :: as, b :: bs => same a b && sameItems as bs
  | _, _ => false

/-- Each of the first entries is among the second. -/
def amongEntries : List (Value × Value) → List (Value × Value) → Bool
  | [], _ => true
  | (k, v) :: rest, others =>
    (others.any fun (k', v') => same k k' && same v v') && amongEntries rest others

end

/-- The text that a value is, under whatever tags. -/
def text? : Value → Option String
  | .string s => some s
  | .tagged _ value => value.text?
  | _ => none

def shownDouble (x : Double) : String :=
  if x.isNaN then ".nan"
  else if x.isFinite then Decimal.text x
  else if x.isNegative then "-.inf"
  else ".inf"

/-- A value between an opening and a closing word. -/
def within (opening closing : String) (parts : List String) : String :=
  opening ++ String.intercalate ", " parts ++ closing

mutual

def shown : Value → String
  | .null => "Null"
  | .bool b => "Bool(" ++ (if b then "true" else "false") ++ ")"
  | .whole n => "Number(" ++ toString n ++ ")"
  | .double x => "Number(" ++ shownDouble x ++ ")"
  | .string s => "String(" ++ Text.shown s ++ ")"
  | .sequence items => within "Sequence [" "]" (shownItems items)
  | .mapping entries => within "Mapping \x7b" "\x7d" (shownEntries entries)
  | .tagged tag value =>
    "TaggedValue \x7b tag: !" ++ tag ++ ", value: " ++ shown value ++ " \x7d"

def shownItems : List Value → List String
  | [] => []
  | item :: rest => shown item :: shownItems rest

def shownEntries : List (Value × Value) → List String
  | [] => []
  | (key, value) :: rest => (shownKey key ++ ": " ++ shown value) :: shownEntries rest

/-- A key as it is shown: a single word or number stands for itself. -/
def shownKey : Value → String
  | .bool b => if b then "true" else "false"
  | .whole n => toString n
  | .double x => shownDouble x
  | .string s => Text.shown s
  | .null => "Null"
  | .sequence items => within "Sequence [" "]" (shownItems items)
  | .mapping entries => within "Mapping \x7b" "\x7d" (shownEntries entries)
  | .tagged tag value =>
    "TaggedValue \x7b tag: !" ++ tag ++ ", value: " ++ shown value ++ " \x7d"

end

end Value

end RemoteDesk.Yaml
