import RemoteDesk.Decimal.Double

/-! # Shortest decimals

A double is written with the fewest decimal digits that read back as the same double, and among
those the nearest to it. The reals that round to a double form an interval, which contains its ends
if the significand is even. On the grid of the multiples of a power of ten, if any point lies in the
interval then so does one of the two neighbours of the value; the coarsest grid with such a point
wins.
-/

namespace RemoteDesk.Decimal

/-- A magnitude `digits · 10 ^ exponent`. -/
structure Scaled where
  digits : Nat
  exponent : Int
  deriving Repr, DecidableEq

/-- A positive fraction. -/
structure Ratio where
  num : Nat
  den : Nat

/-- `significand · 2 ^ exponent / 4`, so that the ends of the interval are whole too. -/
def quarter (significand : Nat) (exponent : Int) : Ratio :=
  let e := exponent - 2
  if 0 ≤ e then ⟨significand * Nat.pow 2 e.toNat, 1⟩ else ⟨significand, Nat.pow 2 (-e).toNat⟩

def Ratio.le (a b : Ratio) : Bool :=
  a.num * b.den ≤ b.num * a.den

def Ratio.lt (a b : Ratio) : Bool :=
  a.num * b.den < b.num * a.den

def Scaled.ratio (s : Scaled) : Ratio :=
  if 0 ≤ s.exponent then ⟨s.digits * Nat.pow 10 s.exponent.toNat, 1⟩
  else ⟨s.digits, Nat.pow 10 (-s.exponent).toNat⟩

def Ratio.distance (a b : Ratio) : Ratio :=
  let x := a.num * b.den
  let y := b.num * a.den
  ⟨if x ≤ y then y - x else x - y, a.den * b.den⟩

/-- How many decimal digits a number has. -/
def width (n : Nat) : Nat :=
  (Nat.toDigits 10 n).length

/-- The power of ten of the first digit of a positive fraction. -/
def leadingExponent (r : Ratio) : Int :=
  if r.den ≤ r.num then (width (r.num / r.den) : Int) - 1
  else -(width (r.den / r.num) : Int)

/-- The reals that round to a double. -/
structure Interval where
  low : Ratio
  high : Ratio
  closed : Bool

def Interval.contains (i : Interval) (r : Ratio) : Bool :=
  if i.closed then i.low.le r && r.le i.high else i.low.lt r && r.lt i.high

/-- The point of the grid `10 ^ exponent` that reads back and is nearest to `value`. Of two equally
    near ones the even one is taken. -/
def onGrid (i : Interval) (value : Ratio) (exponent : Int) : Option Scaled :=
  let below : Nat :=
    if 0 ≤ exponent then value.num / (value.den * Nat.pow 10 exponent.toNat)
    else value.num * Nat.pow 10 (-exponent).toNat / value.den
  let a : Scaled := ⟨below, exponent⟩
  let b : Scaled := ⟨below + 1, exponent⟩
  let fitsA := below ≠ 0 && i.contains a.ratio
  let fitsB := i.contains b.ratio
  if fitsA && fitsB then
    let da := value.distance a.ratio
    let db := value.distance b.ratio
    if da.lt db || (da.le db && below % 2 = 0) then some a else some b
  else if fitsA then some a
  else if fitsB then some b
  else none

/-- Tries grids from coarse to fine; seventeen digits always suffice. -/
def firstGrid (i : Interval) (value : Ratio) (exponent : Int) : Nat → Scaled
  | 0 => ⟨value.num / value.den, 0⟩
  | more + 1 =>
    match onGrid i value exponent with
    | some s => s
    | none => firstGrid i value (exponent - 1) more

/-- Moves zeros at the end of the digits into the exponent. -/
def Scaled.trim (s : Scaled) : Nat → Scaled
  | 0 => s
  | fuel + 1 =>
    if s.digits ≠ 0 ∧ s.digits % 10 = 0 then Scaled.trim ⟨s.digits / 10, s.exponent + 1⟩ fuel
    else s

/-- The shortest decimal that reads back as a finite double other than zero, without its sign. -/
def shortest (x : Double) : Scaled :=
  let m := 4 * x.significand
  let value := quarter m x.exponent
  let interval : Interval :=
    { low := quarter (if x.isBinadeStart then m - 1 else m - 2) x.exponent
      high := quarter (m + 2) x.exponent
      closed := x.significand % 2 = 0 }
  (firstGrid interval value (leadingExponent value) 18).trim 20

/-- Digits with a point before the last `places` of them, and zeros where digits are missing. -/
def positional (digits : List Char) (places : Nat) : List Char :=
  let padded := List.replicate (places + 1 - digits.length) '0' ++ digits
  padded.take (padded.length - places) ++ '.' :: padded.drop (padded.length - places)

/-- The text of a magnitude: positional from 10⁻⁵ to below 10¹⁶, always with a point there, and
    otherwise with the first digit before the point and an exponent. -/
def Scaled.text (s : Scaled) : List Char :=
  let digits := Nat.toDigits 10 s.digits
  let lead : Int := s.exponent + digits.length
  if 0 ≤ s.exponent ∧ lead ≤ 16 then
    digits ++ List.replicate s.exponent.toNat '0' ++ ['.', '0']
  else if s.exponent < 0 ∧ -5 < lead ∧ lead ≤ 16 then positional digits (-s.exponent).toNat
  else
    let head := digits.take 1
    let tail := digits.drop 1
    let power := lead - 1
    let sign := if power < 0 then ['-'] else []
    (if tail = [] then head else head ++ '.' :: tail)
      ++ 'e' :: sign ++ Nat.toDigits 10 power.natAbs

def text (x : Double) : String :=
  let magnitude := if x.isZero then ['0', '.', '0'] else (shortest x).text
  String.ofList (if x.isNegative then '-' :: magnitude else magnitude)

end RemoteDesk.Decimal
