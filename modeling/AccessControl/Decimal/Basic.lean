/-!
Decimal numbers and the doubles next to them. A finite double is exactly `mantissa · 2 ^ exponent`,
a written number exactly `digits · 10 ^ exponent`; `Decimal.toFloat` rounds the second to the
nearest double.
-/

namespace AccessControl

/-- The magnitude of a finite double: `mantissa · 2 ^ exponent`. -/
structure Dyadic where
  mantissa : Nat
  exponent : Int
deriving Repr, DecidableEq

/-- A magnitude written in base ten: `digits · 10 ^ exponent`. -/
structure Decimal where
  digits : Nat
  exponent : Int
deriving Repr, DecidableEq

/-- The sign bit is set; zero and the infinities carry one too. -/
def Dyadic.isNegative (x : Float) : Bool :=
  x.toBits >>> 63 == 1

/-- The bits are those of a number, not of an infinity or of NaN. -/
def Dyadic.isFinite (x : Float) : Bool :=
  (x.toBits >>> 52) &&& 0x7FF != 0x7FF

/-- The magnitude of a finite double, read from its exponent and fraction bits. -/
def Dyadic.ofFloat (x : Float) : Dyadic :=
  let fraction := (x.toBits &&& 0xFFFFFFFFFFFFF).toNat
  let power := ((x.toBits >>> 52) &&& 0x7FF).toNat
  if power = 0 then ⟨fraction, -1074⟩ else ⟨fraction + Nat.pow 2 52, power - 1075⟩

namespace Decimal

/-- How many decimal digits a number has; zero has one. -/
def digitCount (n : Nat) : Nat :=
  (Nat.toDigits 10 n).length

/-- The nearest double, an infinity when there is none. The two bounds only keep the powers of ten
small: beyond them every number is too large, or rounds to zero. -/
def toFloat (d : Decimal) : Float :=
  let leading := d.exponent + digitCount d.digits
  if d.digits = 0 || leading < -400 then 0.0
  else if leading > 400 then 1.0 / 0.0
  else Float.ofScientific d.digits (decide (d.exponent < 0)) d.exponent.natAbs

/-- The same number with no zero at the end of its digits; `fuel` bounds the zeros taken off. -/
def stripZeros (d : Decimal) : Nat → Decimal
  | 0 => d
  | fuel + 1 =>
    if d.digits % 10 = 0 ∧ d.digits ≠ 0 then stripZeros ⟨d.digits / 10, d.exponent + 1⟩ fuel else d

/-- The same number with the shortest digits. -/
def normalize (d : Decimal) : Decimal :=
  d.stripZeros (digitCount d.digits)

end Decimal

end AccessControl
