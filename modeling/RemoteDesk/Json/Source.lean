import RemoteDesk.Decimal.Nearest
import RemoteDesk.Json

/-! # JSON texts

A JSON text is read in two steps. The first finds its structure and leaves numbers and strings as
they are written; the second gives them values. A part that nobody asks for is never given a value,
so it may hold what has none, such as half a surrogate pair.
-/

namespace RemoteDesk.Json

/-- A number as written. -/
structure Numeral where
  negative : Bool
  whole : List Nat
  /-- The digits after the point, if there is one. -/
  fraction : Option (List Nat)
  /-- The sign and the digits of the exponent, if there is one. -/
  power : Option (Bool × List Nat)
  deriving Repr, DecidableEq

/-- A piece of a string as written. -/
inductive Letter where
  /-- A character, or a short escape of it. -/
  | plain (c : Char)
  /-- An escape by four digits of base sixteen, which may be half a character. -/
  | unit (n : Nat)
  deriving Repr, DecidableEq

/-- A JSON text by its structure. -/
inductive Source where
  | null
  | bool (b : Bool)
  | number (n : Numeral)
  | string (letters : List Letter)
  | array (items : List Source)
  | object (fields : List (List Letter × Source))

namespace Source

/-! ## Structure -/

/-- The characters that may stand between tokens. -/
def isSpace (c : Char) : Bool :=
  c == ' ' || c == '\n' || c == '\t' || c == '\r'

def skipSpace (cs : List Char) : List Char :=
  cs.dropWhile isSpace

def isDigit (c : Char) : Bool :=
  '0' ≤ c && c ≤ '9'

def digitValue (c : Char) : Nat :=
  c.toNat - 48

/-- The digits a text starts with, and the rest. -/
def takeDigits (cs : List Char) : List Nat × List Char :=
  ((cs.takeWhile isDigit).map digitValue, cs.dropWhile isDigit)

def hexValue? (c : Char) : Option Nat :=
  if isDigit c then some (digitValue c)
  else if 'a' ≤ c ∧ c ≤ 'f' then some (c.toNat - 87)
  else if 'A' ≤ c ∧ c ≤ 'F' then some (c.toNat - 55)
  else none

def readPower (cs : List Char) : Option ((Bool × List Nat) × List Char) :=
  let (negative, cs) :=
    match cs with
    | '-' :: rest => (true, rest)
    | '+' :: rest => (false, rest)
    | _ => (false, cs)
  match takeDigits cs with
  | ([], _) => none
  | (digits, rest) => some ((negative, digits), rest)

/-- The rest of a number after its sign. Digits before the point start with zero only if there is no
    other; a point and an exponent are followed by a digit. -/
def readNumeral (negative : Bool) (cs : List Char) : Option (Numeral × List Char) := do
  let (whole, rest) := takeDigits cs
  match whole with
  | [] => none
  | 0 :: _ :: _ => none
  | _ =>
    let (fraction, rest) ←
      match rest with
      | '.' :: after =>
        match takeDigits after with
        | ([], _) => none
        | (digits, rest) => some (some digits, rest)
      | _ => some (none, rest)
    match rest with
    | c :: after =>
      if c = 'e' ∨ c = 'E' then
        let (power, rest) ← readPower after
        return (⟨negative, whole, fraction, some power⟩, rest)
      else return (⟨negative, whole, fraction, none⟩, rest)
    | [] => return (⟨negative, whole, fraction, none⟩, rest)

/-- The pieces of a string after its opening quote, and what follows the closing one. -/
def readLetters : List Char → Option (List Letter × List Char)
  | [] => none
  | c :: rest =>
    if c = '"' then some ([], rest)
    else if c.toNat < 32 then none
    else if c = '\\' then
      match rest with
      | [] => none
      | e :: rest =>
        if e = 'u' then
          match rest with
          | a :: b :: c :: d :: rest => do
            let a ← hexValue? a
            let b ← hexValue? b
            let c ← hexValue? c
            let d ← hexValue? d
            let (letters, after) ← readLetters rest
            return (.unit (((a * 16 + b) * 16 + c) * 16 + d) :: letters, after)
          | _ => none
        else do
          let plain ←
            if e = '"' ∨ e = '\\' ∨ e = '/' then some e
            else if e = 'b' then some '\x08'
            else if e = 'f' then some '\x0c'
            else if e = 'n' then some '\n'
            else if e = 'r' then some '\r'
            else if e = 't' then some '\t'
            else none
          let (letters, after) ← readLetters rest
          return (.plain plain :: letters, after)
    else do
      let (letters, after) ← readLetters rest
      return (.plain c :: letters, after)

/-- What follows a word that the text must start with. -/
def expect (word cs : List Char) : Option (List Char) :=
  if word.isPrefixOf cs then some (cs.drop word.length) else none

mutual

/-- One value, and what follows it. -/
def read : Nat → List Char → Option (Source × List Char)
  | 0, _ => none
  | fuel + 1, cs =>
    match skipSpace cs with
    | [] => none
    | c :: rest =>
      if c = 'n' then (expect ['u', 'l', 'l'] rest).map (.null, ·)
      else if c = 't' then (expect ['r', 'u', 'e'] rest).map (.bool true, ·)
      else if c = 'f' then (expect ['a', 'l', 's', 'e'] rest).map (.bool false, ·)
      else if c = '"' then (readLetters rest).map fun (letters, after) => (.string letters, after)
      else if c = '-' then (readNumeral true rest).map fun (n, after) => (.number n, after)
      else if isDigit c then
        (readNumeral false (c :: rest)).map fun (n, after) => (.number n, after)
      else if c = '[' then
        match skipSpace rest with
        | ']' :: after => some (.array [], after)
        | _ => (readItems fuel rest).map fun (items, after) => (.array items, after)
      else if c = '\x7b' then
        match skipSpace rest with
        | '\x7d' :: after => some (.object [], after)
        | _ => (readFields fuel rest).map fun (fields, after) => (.object fields, after)
      else none

/-- The items of an array that has some, up to its closing bracket. -/
def readItems : Nat → List Char → Option (List Source × List Char)
  | 0, _ => none
  | fuel + 1, cs => do
    let (item, rest) ← read fuel cs
    match skipSpace rest with
    | ']' :: after => return ([item], after)
    | ',' :: after =>
      let (items, after) ← readItems fuel after
      return (item :: items, after)
    | _ => none

/-- The fields of an object that has some, up to its closing brace. -/
def readFields : Nat → List Char → Option (List (List Letter × Source) × List Char)
  | 0, _ => none
  | fuel + 1, cs => do
    match skipSpace cs with
    | '"' :: rest =>
      let (name, rest) ← readLetters rest
      match skipSpace rest with
      | ':' :: rest =>
        let (value, rest) ← read fuel rest
        match skipSpace rest with
        | '\x7d' :: after => return ([(name, value)], after)
        | ',' :: after =>
          let (fields, after) ← readFields fuel after
          return ((name, value) :: fields, after)
        | _ => none
      | _ => none
    | _ => none

end

/-- The structure of a whole text. A value has at most as many parts inside it as the text has
    characters. -/
def parse (text : String) : Option Source := do
  let cs := text.toList
  let (value, rest) ← read (2 * cs.length + 1) cs
  match skipSpace rest with
  | [] => return value
  | _ => none

/-! ## Values -/

/-- The text that pieces spell: halves of surrogate pairs must come in pairs. -/
def spell : List Letter → Option (List Char)
  | [] => some []
  | .plain c :: rest => (spell rest).map (c :: ·)
  | .unit n :: rest =>
    if n < 0xd800 ∨ 0xdfff < n then (spell rest).map (Char.ofNat n :: ·)
    else if 0xdc00 ≤ n then none
    else
      match rest with
      | .unit m :: rest =>
        if 0xdc00 ≤ m ∧ m ≤ 0xdfff then
          (spell rest).map (Char.ofNat ((n - 0xd800) * 0x400 + (m - 0xdc00) + 0x10000) :: ·)
        else none
      | _ => none

/-- The text that pieces spell. -/
def text? (letters : List Letter) : Option String :=
  (spell letters).map String.ofList

/-- The greatest number whose digits are all kept. -/
def maxSignificand : Nat := 18446744073709551615

/-- Reads digits after others as long as the number stays within 64 bits; the rest is counted. -/
def accumulate (n : Nat) : List Nat → Nat × Nat
  | [] => (n, 0)
  | d :: rest =>
    if n * 10 + d ≤ maxSignificand then accumulate (n * 10 + d) rest else (n, (d :: rest).length)

/-- The double nearest to a power of ten. -/
def powerOfTen (power : Nat) : Float :=
  (Double.ofRatio (Nat.pow 10 power) 1).toFloat

/-- A number scaled by a power of ten in machine arithmetic: one rounding for the number, one for
    the power and one for their product or quotient. A result beyond all doubles is none. -/
def scale (significand : Nat) (power : Int) : Option Float :=
  let start := (UInt64.ofNat significand).toFloat
  if 0 ≤ power then
    if power ≤ 308 then
      let x := start * powerOfTen power.toNat
      if x.isInf then none else some x
    else if significand = 0 then some start else none
  else some (shrink start power.natAbs)
where
  /-- Divides by a power of ten, at most 308 at a time. -/
  shrink (x : Float) (power : Nat) : Float :=
    if power ≤ 308 then x / powerOfTen power
    else if x == 0 then x
    else shrink (x / powerOfTen 308) (power - 308)
  termination_by power

/-- The greatest exponent that is counted. -/
def maxPower : Nat := 2147483647

/-- The value of a number. Whole numbers of 64 bits stay whole; a number with a point or an
    exponent, and one beyond 64 bits, is a double, as is minus zero. -/
def Numeral.value (n : Numeral) : Option Number :=
  let (first, droppedWhole) := accumulate 0 n.whole
  match n.fraction, n.power with
  | none, none =>
    if droppedWhole = 0 ∧ !n.negative then some (.whole first)
    else if droppedWhole = 0 ∧ first ≠ 0 ∧ first ≤ 9223372036854775808 then some (.whole (-first))
    else (scale first droppedWhole).map sign
  | fraction, power =>
    let digits := fraction.getD []
    let (significand, droppedDigits) := accumulate first digits
    let exponent : Int := droppedWhole - ((digits.length - droppedDigits : Nat) : Int)
    match power with
    | none => (scale significand exponent).map sign
    | some (negative, powerDigits) =>
      let p := powerDigits.foldl (fun p d => p * 10 + d) 0
      if maxPower < p then
        if significand ≠ 0 ∧ !negative then none else some (sign 0)
      else (scale significand (if negative then exponent - p else exponent + p)).map sign
where
  sign (x : Float) : Number := .double (.ofFloat (if n.negative then -x else x))

mutual

/-- The value of a text, whose arrays and objects may stand inside each other less than `depth`
    times. -/
def value (depth : Nat) : Source → Option Json
  | .null => some .null
  | .bool b => some (.bool b)
  | .number n => (Numeral.value n).map .number
  | .string letters => (text? letters).map .string
  | .array items => if depth ≤ 1 then none else (values (depth - 1) items).map .array
  | .object fields => if depth ≤ 1 then none else (fieldValues (depth - 1) fields).map .ofFields

def values (depth : Nat) : List Source → Option (List Json)
  | [] => some []
  | item :: rest => do
    let item ← value depth item
    let rest ← values depth rest
    return item :: rest

def fieldValues (depth : Nat) : List (List Letter × Source) → Option (List (String × Json))
  | [] => some []
  | (name, item) :: rest => do
    let name ← text? name
    let item ← value depth item
    let rest ← fieldValues depth rest
    return (name, item) :: rest

end

end Source

end RemoteDesk.Json
