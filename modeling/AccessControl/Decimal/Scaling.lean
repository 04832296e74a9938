import AccessControl.Decimal.Basic

/-!
A short way from a decimal to a double: the double nearest to the digits is multiplied or divided by
a power of ten. Each step rounds, so the result may lie beside the double nearest to the decimal,
which is the one that `Decimal.toFloat` gives.
-/

namespace AccessControl.Decimal

/-- The exponent of the largest power of ten among the doubles. -/
def maxPower : Nat :=
  308

/-- The double nearest to a power of ten. -/
def powerOfTen (exponent : Nat) : Float :=
  Float.ofScientific 1 false exponent

/-- A double times a power of ten, unless that is too large. A divisor past the largest power of ten
is divided by in parts. -/
def scale? (x : Float) (exponent : Int) : Option Float :=
  if exponent.natAbs ≤ maxPower then
    if 0 ≤ exponent then
      let product := x * powerOfTen exponent.natAbs
      if Dyadic.isFinite product then some product else none
    else some (x / powerOfTen exponent.natAbs)
  else if x == 0.0 then some x
  else if 0 ≤ exponent then none
  else scale? (x / powerOfTen maxPower) (exponent + maxPower)
termination_by exponent.natAbs
decreasing_by simp only [maxPower] at *; omega

/-- The double that a decimal is scaled to. -/
def scaled? (d : Decimal) : Option Float :=
  scale? (Float.ofNat d.digits) d.exponent

end AccessControl.Decimal
