import RemoteDesk.Decimal.Nearest
import RemoteDesk.Yaml.Character

/-! # What plain scalars say

A plain scalar says what it looks like: nothing, a truth value, a number or, failing these, its own
text. Digits after a leading zero are no number.
-/

namespace RemoteDesk.Yaml

/-- What a plain scalar says. -/
inductive Meaning where
  | null
  | bool (b : Bool)
  | whole (n : Int)
  | double (x : Double)
  | text
  deriving Repr, DecidableEq

namespace Meaning

def nullWords : List String := ["null", "Null", "NULL", "~"]

def bool? (s : String) : Option Bool :=
  if s ∈ ["true", "True", "TRUE"] then some true
  else if s ∈ ["false", "False", "FALSE"] then some false
  else none

/-- The value of digits of a base up to sixteen; there must be some. -/
def digits? (base : Nat) (cs : List Char) : Option Nat :=
  if cs = [] then none
  else
    cs.foldlM (fun n c => do
      let d ← hexValue? c
      if d < base then some (n * base + d) else none) 0

def unsigned (cs : List Char) : List Char :=
  match cs with
  | '+' :: rest => rest
  | '-' :: rest => rest
  | _ => cs

/-- Digits after a leading zero. -/
def isPadded (cs : List Char) : Bool :=
  match unsigned cs with
  | '0' :: d :: rest => (d :: rest).all Char.isDigit
  | _ => false

/-- A whole number without a sign: decimal, or in the base that its first two characters name. -/
def magnitude? (cs : List Char) : Option Nat :=
  match cs with
  | '0' :: 'x' :: rest => digits? 16 rest
  | '0' :: 'o' :: rest => digits? 8 rest
  | '0' :: 'b' :: rest => digits? 2 rest
  | _ => if isPadded cs then none else digits? 10 cs

/-- A whole number that is not negative, with or without a plus sign. -/
def natural? (cs : List Char) : Option Nat :=
  match cs with
  | '+' :: rest => magnitude? rest
  | _ => magnitude? cs

def negative? (cs : List Char) : Option Int :=
  match cs with
  | '-' :: rest => (magnitude? rest).map fun n => -n
  | _ => none

/-- A whole number of at most 128 bits. -/
def whole? (cs : List Char) : Option Int :=
  match natural? cs, negative? cs with
  | some n, _ => if n < Nat.pow 2 128 then some n else none
  | none, some n => if -Int.pow 2 127 ≤ n then some n else none
  | none, none => none

/-- A number that is infinite or none, by its word. -/
def special? (s : String) : Option Double :=
  if s ∈ [".inf", ".Inf", ".INF", "+.inf", "+.Inf", "+.INF"] then some .infinity
  else if s ∈ ["-.inf", "-.Inf", "-.INF"] then some Double.infinity.negate
  else if s ∈ [".nan", ".NaN", ".NAN"] then some ⟨UInt64.ofNat (2047 * Nat.pow 2 52 + Nat.pow 2 51)⟩
  else none

/-- A number with a point or an exponent, or a whole number of more than 128 bits. -/
def double? (s : String) : Option Double :=
  match special? s with
  | some x => some x
  | none =>
    match s.toList with
    | '+' :: '-' :: _ => none
    | '+' :: rest => Decimal.read? rest
    | cs => Decimal.read? cs

/-- What a plain scalar says. -/
def ofText (s : String) : Meaning :=
  if s = "" ∨ s ∈ nullWords then .null
  else
    match bool? s, whole? s.toList with
    | some b, _ => .bool b
    | none, some n => .whole n
    | none, none =>
      if isPadded s.toList then .text
      else
        match double? s with
        | some x => .double x
        | none => .text

end Meaning

end RemoteDesk.Yaml
