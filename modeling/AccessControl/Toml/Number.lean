import AccessControl.Decimal.Basic
import AccessControl.Text.Hex
import AccessControl.Toml.Basic
import AccessControl.Word

/-!
Numbers and moments of TOML. Digits may be grouped by underscores, each of which stands between two
digits.
-/

namespace AccessControl.Toml

/-- Digits after a digit, up to where no digit follows. -/
def moreDigits? (isDigit : Char → Bool) (done : List Char) :
    List Char → Option (List Char × List Char)
  | [] => some (done.reverse, [])
  | ['_'] => none
  | '_' :: c :: cs => if isDigit c then moreDigits? isDigit (c :: done) cs else none
  | c :: cs =>
    if isDigit c then moreDigits? isDigit (c :: done) cs else some (done.reverse, c :: cs)

/-- One digit at least. -/
def digits? (isDigit : Char → Bool) : List Char → Option (List Char × List Char)
  | [] => none
  | c :: cs => if isDigit c then moreDigits? isDigit [c] cs else none

def digitValue (c : Char) : Nat :=
  (Text.hexDigit? c).getD 0

def valueIn (base : Nat) (digits : List Char) : Nat :=
  digits.foldl (fun n c => base * n + digitValue c) 0

/-- An integer without sign in another base than ten. -/
def based? (base : Nat) (isDigit : Char → Bool) (cs : List Char) : Option (Toml × List Char) := do
  let (digits, rest) ← digits? isDigit cs
  let n := valueIn base digits
  if n < Word.bound 63 then some (.integer n, rest) else none

def isHexDigit (c : Char) : Bool :=
  (Text.hexDigit? c).isSome

def isOctalDigit (c : Char) : Bool :=
  '0' ≤ c && c ≤ '7'

def isBinaryDigit (c : Char) : Bool :=
  c == '0' || c == '1'

/-- The exponent part of a number, if one follows. -/
def power? : List Char → Option (Option Int × List Char)
  | [] => some (none, [])
  | e :: cs =>
    if e = 'e' ∨ e = 'E' then do
      let (negative, cs) :=
        match cs with
        | '-' :: rest => (true, rest)
        | '+' :: rest => (false, rest)
        | rest => (false, rest)
      let (digits, rest) ← digits? Char.isDigit cs
      let n : Int := valueIn 10 digits
      some (some (if negative then -n else n), rest)
    else some (none, e :: cs)

/-- The decimals of a number, if a point follows. -/
def decimals? : List Char → Option (Option (List Char) × List Char)
  | '.' :: cs => (digits? Char.isDigit cs).map fun r => (some r.1, r.2)
  | cs => some (none, cs)

/-- A number in base ten after its sign. An integer has to fit a signed word of 64 bits. A float may
be too small for a double but not too large. -/
def decimal? (negative : Bool) (cs : List Char) : Option (Toml × List Char) := do
  let (whole, cs) ← digits? Char.isDigit cs
  if whole.length > 1 && whole.head? == some '0' then none
  else
    let (decimals, cs) ← decimals? cs
    let (power, cs) ← power? cs
    match decimals, power with
    | none, none =>
      let n : Int := valueIn 10 whole
      let n := if negative then -n else n
      if Word.fitsSigned 63 n then some (.integer n, cs) else none
    | _, _ =>
      let fraction := decimals.getD []
      let magnitude : Decimal := ⟨valueIn 10 (whole ++ fraction), power.getD 0 - fraction.length⟩
      let x := magnitude.toFloat
      if negative then some (.float (-x), cs)
      else if Dyadic.isFinite x then some (.float x, cs)
      else none

/-- A number after its sign, the special ones included. -/
def signed? (negative : Bool) : List Char → Option (Toml × List Char)
  | 'i' :: 'n' :: 'f' :: cs => some (.float (if negative then -1.0 / 0.0 else 1.0 / 0.0), cs)
  | 'n' :: 'a' :: 'n' :: cs => some (.float (0.0 / 0.0), cs)
  | cs => decimal? negative cs

def number? : List Char → Option (Toml × List Char)
  | '0' :: 'x' :: cs => based? 16 isHexDigit cs
  | '0' :: 'o' :: cs => based? 8 isOctalDigit cs
  | '0' :: 'b' :: cs => based? 2 isBinaryDigit cs
  | '-' :: cs => signed? true cs
  | '+' :: cs => signed? false cs
  | cs => signed? false cs

/-- Two digits that write a number between two bounds. -/
def twoDigits? (low high : Nat) : List Char → Option (Nat × List Char)
  | a :: b :: cs =>
    let n := valueIn 10 [a, b]
    if a.isDigit && b.isDigit && low ≤ n && n ≤ high then some (n, cs) else none
  | _ => none

def expect? (c : Char) : List Char → Option (List Char)
  | d :: cs => if d = c then some cs else none
  | [] => none

def daysInMonth (year month : Nat) : Nat :=
  if month = 2 then
    if year % 4 = 0 && (year % 100 != 0 || year % 400 == 0) then 29 else 28
  else if [4, 6, 9, 11].contains month then 30
  else 31

/-- What follows a date whose year has been read. -/
def afterYear? (year : Nat) (cs : List Char) : Option (List Char) := do
  let cs ← expect? '-' cs
  let (month, cs) ← twoDigits? 1 12 cs
  let cs ← expect? '-' cs
  let (_, cs) ← twoDigits? 1 (daysInMonth year month) cs
  some cs

/-- What follows a time of day. -/
def afterTime? (cs : List Char) : Option (List Char) := do
  let (_, cs) ← twoDigits? 0 23 cs
  let cs ← expect? ':' cs
  let (_, cs) ← twoDigits? 0 59 cs
  let cs ← expect? ':' cs
  let (_, cs) ← twoDigits? 0 60 cs
  match cs with
  | '.' :: c :: rest => if c.isDigit then some (rest.dropWhile Char.isDigit) else some cs
  | _ => some cs

/-- What follows an offset from universal time, if there is one. -/
def afterOffset? : List Char → Option (List Char)
  | [] => some []
  | c :: cs =>
    if c = 'Z' ∨ c = 'z' then some cs
    else if c = '+' ∨ c = '-' then do
      let (_, cs) ← twoDigits? 0 23 cs
      let cs ← expect? ':' cs
      let (_, cs) ← twoDigits? 0 59 cs
      some cs
    else some (c :: cs)

def startsTime : List Char → Bool
  | a :: b :: ':' :: _ => a.isDigit && b.isDigit
  | _ => false

def startsDate : List Char → Bool
  | a :: b :: c :: d :: '-' :: _ => a.isDigit && b.isDigit && c.isDigit && d.isDigit
  | _ => false

/-- What follows a date, or a date and a time. -/
def afterDate? (cs : List Char) : Option (List Char) := do
  let rest ← afterYear? (valueIn 10 (cs.take 4)) (cs.drop 4)
  match rest with
  | c :: time =>
    if (c = 'T' ∨ c = 't' ∨ c = ' ') ∧ startsTime time then do
      let rest ← afterTime? time
      afterOffset? rest
    else some rest
  | [] => some []

/-- A number or a moment. Digits that start like a date or a time of day have to be one. -/
def numberOrMoment? (cs : List Char) : Option (Toml × List Char) :=
  if startsDate cs then moment (afterDate? cs)
  else if startsTime cs then moment (afterTime? cs)
  else number? cs
where
  moment (rest : Option (List Char)) : Option (Toml × List Char) :=
    rest.map fun rest => (.moment (String.ofList (cs.take (cs.length - rest.length))), rest)

end AccessControl.Toml
