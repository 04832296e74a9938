import AccessControl.Json.Fields
import AccessControl.Text.Hex

/-!
Identifiers of users, entities and policies: 128 bits, written as 32 hexadecimal digits in groups of
8, 4, 4, 4 and 12. A few other spellings are read.
-/

namespace AccessControl

/-- An identifier, as its hexadecimal digits from the highest to the lowest. -/
structure Id where
  digits : List (Fin 16)
  length_eq : digits.length = 32
deriving DecidableEq

/-- Identifies a principal. -/
abbrev UserId := Id

/-- Identifies a protected resource. -/
abbrev EntityId := Id

/-- Identifies a policy. -/
abbrev PolicyId := Id

namespace Id

/-- Numerals name digits. -/
instance neZero_sixteen : @NeZero Nat Zero.ofOfNat0 16 :=
  Nat.instNeZeroSucc

/-- One digit, repeated. -/
def ofDigit (digit : Fin 16) : Id :=
  ⟨List.replicate 32 digit, List.length_replicate⟩

def digitChar (d : Fin 16) : Char :=
  Text.hexChar d.val

def digit? (c : Char) : Option (Fin 16) :=
  (Text.hexDigit? c).map (Fin.ofNat 16)

/-- Reads 32 digits without hyphens. -/
def ofPlain? (cs : List Char) : Option Id := do
  let digits ← cs.mapM digit?
  if h : digits.length = 32 then some ⟨digits, h⟩ else none

/-- The places of the hyphens in the grouped form. -/
def isHyphenPlace (i : Nat) : Bool :=
  i == 8 || i == 13 || i == 18 || i == 23

/-- Reads the grouped form: a hyphen at each of its places and digits at all others. -/
def ofGrouped? (cs : List Char) : Option Id :=
  let marked := cs.zipIdx
  if (marked.filter fun p => isHyphenPlace p.2).all (·.1 == '-') then
    ofPlain? ((marked.filter fun p => !isHyphenPlace p.2).map (·.1))
  else none

def urnStart : List Char :=
  "urn:uuid:".toList

/-- Reads an identifier: plain, grouped, grouped in braces, or grouped after `urn:uuid:` in any
case. -/
def ofText? (s : String) : Option Id :=
  let cs := s.toList
  if cs.length = 32 then ofPlain? cs
  else if cs.length = 36 then ofGrouped? cs
  else if cs.length = 38 then
    if cs.head? = some '\x7b' ∧ cs.getLast? = some '\x7d' then ofGrouped? ((cs.drop 1).take 36)
    else none
  else if cs.length = 45 then
    if (cs.take 9).map Char.toLower = urnStart then ofGrouped? (cs.drop 9) else none
  else none

/-- The grouped form in lower case. -/
def toText (id : Id) : String :=
  let cs := id.digits.map digitChar
  String.ofList (cs.take 8 ++ '-' :: (cs.drop 8).take 4 ++ '-' :: (cs.drop 12).take 4 ++
    '-' :: (cs.drop 16).take 4 ++ '-' :: cs.drop 20)

instance : ToString Id := ⟨toText⟩

/-- The order of the numbers that the digits write. -/
def lessDigits : List (Fin 16) → List (Fin 16) → Bool
  | _, [] => false
  | [], _ :: _ => true
  | a :: as, b :: bs => decide (a.val < b.val) || (a == b && lessDigits as bs)

def less (a b : Id) : Bool :=
  lessDigits a.digits b.digits

/-- Puts an identifier at its place among ascending ones, where it is not there yet. -/
def insertAscending (id : Id) : List Id → List Id
  | [] => [id]
  | i :: is =>
    if less id i then id :: i :: is
    else if id = i then i :: is
    else i :: insertAscending id is

/-- The distinct identifiers of a list in ascending order. -/
def distinctAscending (ids : List Id) : List Id :=
  ids.foldl (fun done id => insertAscending id done) []

def toJson (id : Id) : Json :=
  .text id.toText

def ofJson? (j : Json) : Option Id :=
  j.text?.bind ofText?

end Id

end AccessControl
