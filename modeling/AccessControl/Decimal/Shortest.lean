import AccessControl.Decimal.Basic

/-!
The shortest decimal that reads back as the magnitude of a given double. For one digit, two digits
and so on, the two neighbours of the double on that decimal grid are read back; the first grid with
a hit wins, and of two hits the nearer one. Where both are equally near, a tie rule decides.
-/

namespace AccessControl.Decimal

/-- What happens to a number in the middle of two neighbours. -/
inductive Tie where
  /-- The neighbour with an even last digit is taken. -/
  | toEven
  /-- The neighbour further from zero is taken. -/
  | away
deriving DecidableEq

/-- A number in the middle goes up from its lower neighbour. -/
def Tie.goesUp (tie : Tie) (low : Nat) : Bool :=
  match tie with
  | .toEven => low % 2 == 1
  | .away => true

/-- Numerator and denominator of `mantissa · 2 ^ exponent`. -/
def fraction (v : Dyadic) : Nat × Nat :=
  if 0 ≤ v.exponent then (v.mantissa * Nat.pow 2 v.exponent.natAbs, 1)
  else (v.mantissa, Nat.pow 2 v.exponent.natAbs)

/-- The least `k` with `v < 10 ^ k`. Every positive double is above `10 ^ -342`. -/
def magnitude (v : Dyadic) : Int :=
  let (num, den) := fraction v
  (digitCount (num * Nat.pow 10 342 / den) : Int) - 342

/-- The largest multiple of `10 ^ exponent` up to `v`, and where `v` lies to the middle of that
multiple and the next. -/
def gridFloor (v : Dyadic) (exponent : Int) : Nat × Ordering :=
  let (num, den) := fraction v
  let (num, den) :=
    if 0 ≤ exponent then (num, den * Nat.pow 10 exponent.natAbs)
    else (num * Nat.pow 10 exponent.natAbs, den)
  (num / den, compare (2 * (num % den)) den)

/-- The decimal reads back as `x` without its sign. -/
def readsBack (x : Float) (d : Decimal) : Bool :=
  d.toFloat.toBits == (x.toBits &&& 0x7FFFFFFFFFFFFFFF)

/-- The neighbour of `v` on the grid of `10 ^ exponent` that reads back as `x`, if one does. -/
def atGrid? (tie : Tie) (x : Float) (v : Dyadic) (exponent : Int) : Option Decimal :=
  let (low, place) := gridFloor v exponent
  let below : Decimal := ⟨low, exponent⟩
  let above : Decimal := ⟨low + 1, exponent⟩
  if place = .gt ∨ (place = .eq ∧ tie.goesUp low) then
    if readsBack x above then some above else if readsBack x below then some below else none
  else
    if readsBack x below then some below else if readsBack x above then some above else none

/-- All digits of a double: a power of two in the denominator is a power of ten once the numerator
is multiplied by the same power of five. -/
def exact (v : Dyadic) : Decimal :=
  if 0 ≤ v.exponent then ⟨v.mantissa * Nat.pow 2 v.exponent.natAbs, 0⟩
  else ⟨v.mantissa * Nat.pow 5 v.exponent.natAbs, v.exponent⟩

/-- The shortest decimal that reads back as the finite double `x` without its sign. Seventeen digits
always suffice, so the exact digits stand in only where nothing else is claimed. -/
def shortest (tie : Tie) (x : Float) : Decimal :=
  let v := Dyadic.ofFloat x
  if v.mantissa = 0 then ⟨0, 0⟩
  else
    let top := magnitude v
    let found := (List.range 17).findSome? fun (i : Nat) => atGrid? tie x v (top - (i + 1 : Nat))
    (found.getD (exact v)).normalize

end AccessControl.Decimal
