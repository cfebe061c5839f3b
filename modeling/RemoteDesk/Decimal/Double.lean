/-! # Binary doubles

A double is kept as its 64 bits, so that equal values are equal terms. A finite double other than
zero is `significand · 2 ^ exponent` with a whole significand.
-/

namespace RemoteDesk

/-- A number of the binary64 format, by its bits. -/
structure Double where
  bits : UInt64
  deriving Repr, DecidableEq

namespace Double

/-- The number that the machine computes with. -/
def ofFloat (x : Float) : Double := ⟨x.toBits⟩

def isNegative (x : Double) : Bool :=
  x.bits.toNat / Nat.pow 2 63 = 1

/-- The eleven bits of the exponent. -/
def exponentBits (x : Double) : Nat :=
  x.bits.toNat / Nat.pow 2 52 % Nat.pow 2 11

/-- The bits after the leading one. -/
def fractionBits (x : Double) : Nat :=
  x.bits.toNat % Nat.pow 2 52

def isFinite (x : Double) : Bool :=
  x.exponentBits ≠ 2047

def isNaN (x : Double) : Bool :=
  !x.isFinite && x.fractionBits ≠ 0

def isZero (x : Double) : Bool :=
  x.exponentBits = 0 && x.fractionBits = 0

def significand (x : Double) : Nat :=
  if x.exponentBits = 0 then x.fractionBits else Nat.pow 2 52 + x.fractionBits

/-- The exponent of two that goes with the significand. -/
def exponent (x : Double) : Int :=
  if x.exponentBits = 0 then -1074 else x.exponentBits - 1075

/-- The next smaller magnitude is only half as far away as the next greater one. -/
def isBinadeStart (x : Double) : Bool :=
  x.fractionBits = 0 && 1 < x.exponentBits

end Double

end RemoteDesk
