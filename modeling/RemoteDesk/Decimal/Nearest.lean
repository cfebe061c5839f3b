import RemoteDesk.Decimal.Double

/-! # Nearest doubles

A decimal is read as the double nearest to it, and as the one with the even significand if two are
equally near. Whatever is half a step or more beyond the greatest double is infinite.
-/

namespace RemoteDesk

namespace Double

/-- The machine's number with the same bits. -/
def toFloat (x : Double) : Float := Float.ofBits x.bits

def infinity : Double := ⟨UInt64.ofNat (2047 * Nat.pow 2 52)⟩

def negate (x : Double) : Double := ⟨x.bits ^^^ UInt64.ofNat (Nat.pow 2 63)⟩

/-- `num / den` as a whole number; half a unit goes to the even neighbour. -/
def roundQuotient (num den : Nat) : Nat :=
  let below := num / den
  let twice := 2 * (num % den)
  if den < twice ∨ (twice = den ∧ below % 2 = 1) then below + 1 else below

/-- `num / den` in units of `2 ^ exponent`, rounded by `round`. -/
def inUnits (round : Nat → Nat → Nat) (num den : Nat) (exponent : Int) : Nat :=
  if 0 ≤ exponent then round num (den * Nat.pow 2 exponent.toNat)
  else round (num * Nat.pow 2 (-exponent).toNat) den

/-- The exponent of the unit in which a fraction is rounded, so that it has 53 digits of base two,
    or fewer if it is among the smallest. -/
def unitExponent (num den : Nat) : Int :=
  let coarse : Int := num.log2 - den.log2 - 53
  let fine := if Nat.pow 2 53 ≤ inUnits (· / ·) num den coarse then coarse + 1 else coarse
  max fine (-1074)

/-- The double nearest to `num / den`. -/
def ofRatio (num den : Nat) : Double :=
  if num = 0 then ⟨0⟩
  else
    let exponent := unitExponent num den
    let significand := inUnits roundQuotient num den exponent
    let bits :=
      if significand < Nat.pow 2 52 then significand
      else (exponent + 1075).toNat * Nat.pow 2 52 + (significand - Nat.pow 2 52)
    if 2047 * Nat.pow 2 52 ≤ bits then infinity else ⟨UInt64.ofNat bits⟩

/-- The double nearest to `digits · 10 ^ exponent`. -/
def ofDecimal (digits : Nat) (exponent : Int) : Double :=
  let lead := exponent + (Nat.toDigits 10 digits).length
  if digits = 0 ∨ lead < -400 then ⟨0⟩
  else if 400 < lead then infinity
  else if 0 ≤ exponent then ofRatio (digits * Nat.pow 10 exponent.toNat) 1
  else ofRatio digits (Nat.pow 10 (-exponent).toNat)

end Double

namespace Decimal

def digitsValue (cs : List Char) : Nat :=
  cs.foldl (fun n c => n * 10 + (c.toNat - 48)) 0

/-- The exponent of a number, after its letter. -/
def readExponent? (cs : List Char) : Option Int :=
  let (negative, digits) :=
    match cs with
    | '-' :: rest => (true, rest)
    | '+' :: rest => (false, rest)
    | _ => (false, cs)
  if digits = [] ∨ !digits.all Char.isDigit then none
  else some (if negative then -(digitsValue digits : Int) else digitsValue digits)

/-- Reads a magnitude: digits, possibly with a point among or beside them, and possibly an
    exponent. -/
def readMagnitude? (cs : List Char) : Option Double := do
  let whole := cs.takeWhile Char.isDigit
  let rest := cs.dropWhile Char.isDigit
  let (fraction, rest) :=
    match rest with
    | '.' :: after => (after.takeWhile Char.isDigit, after.dropWhile Char.isDigit)
    | _ => ([], rest)
  if whole = [] ∧ fraction = [] then none
  let exponent ←
    match rest with
    | [] => some 0
    | e :: after => if e = 'e' ∨ e = 'E' then readExponent? after else none
  return .ofDecimal (digitsValue (whole ++ fraction)) (exponent - fraction.length)

/-- Reads a finite number, possibly with a minus sign. -/
def read? (cs : List Char) : Option Double := do
  let x ←
    match cs with
    | '-' :: rest => (readMagnitude? rest).map Double.negate
    | _ => readMagnitude? cs
  if x.isFinite then return x else none

end Decimal

end RemoteDesk
