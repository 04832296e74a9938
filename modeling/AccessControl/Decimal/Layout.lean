import AccessControl.Decimal.Shortest

/-!
Writing a double. `Layout` holds what a format decides; the digits are always the shortest ones.
-/

namespace AccessControl.Decimal

/-- What a number format decides about its text. -/
structure Layout where
  /-- The exponents of the leading digit that are written without an exponent part; none bounds
  nothing. -/
  positional : Option (Int × Int)
  /-- A whole number gets a point and one zero. -/
  wholePoint : Bool
  tie : Tie
  notANumber : String
  infinity : String
  negativeInfinity : String

/-- Numbers in JSON text: an exponent below `10 ^ -5` and from `10 ^ 16` on, at least one decimal
place otherwise. A double that is no number has no JSON form but `null`. -/
def Layout.json : Layout := ⟨some (-5, 15), true, .toEven, "null", "null", "null"⟩

/-- Numbers in messages: never an exponent, and no decimals that are not needed. -/
def Layout.message : Layout := ⟨none, false, .away, "NaN", "inf", "-inf"⟩

def digitText (n : Nat) : String :=
  String.ofList (Nat.toDigits 10 n)

/-- Positional text of `digits · 10 ^ exponent`. -/
def writePositional (l : Layout) (digits : String) (exponent : Int) : String :=
  if 0 ≤ exponent then
    digits ++ String.ofList (List.replicate exponent.natAbs '0') ++
      (if l.wholePoint then ".0" else "")
  else
    let places := exponent.natAbs
    if places < digits.length then
      let cs := digits.toList
      String.ofList (cs.take (digits.length - places)) ++ "." ++
        String.ofList (cs.drop (digits.length - places))
    else
      "0." ++ String.ofList (List.replicate (places - digits.length) '0') ++ digits

/-- Text with an exponent part: one digit before the point, and a sign in the exponent. -/
def writeScientific (digits : String) (leading : Int) : String :=
  let cs := digits.toList
  let rest := if cs.length ≤ 1 then "" else "." ++ String.ofList (cs.drop 1)
  let sign := if leading < 0 then "-" else "+"
  String.ofList (cs.take 1) ++ rest ++ "e" ++ sign ++ digitText leading.natAbs

/-- The text of a magnitude. -/
def write (l : Layout) (d : Decimal) : String :=
  let digits := digitText d.digits
  let leading := d.exponent + digits.length - 1
  match l.positional with
  | none => writePositional l digits d.exponent
  | some (low, high) =>
    if d.digits = 0 || (low ≤ leading && leading ≤ high) then writePositional l digits d.exponent
    else writeScientific digits leading

/-- The text of a double. -/
def writeFloat (l : Layout) (x : Float) : String :=
  if Dyadic.isFinite x then
    (if Dyadic.isNegative x then "-" else "") ++ write l (shortest l.tie x)
  else if x.toBits &&& 0xFFFFFFFFFFFFF != 0 then l.notANumber
  else if Dyadic.isNegative x then l.negativeInfinity
  else l.infinity

end AccessControl.Decimal
