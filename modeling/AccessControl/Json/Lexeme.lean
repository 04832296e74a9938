import AccessControl.Json.Basic
import AccessControl.Decimal.Scaling
import AccessControl.Text.Hex
import AccessControl.Word

/-!
The lexemes of JSON text. A number too large for a double and a text with half of a surrogate pair
are lexemes still, but have no value: whether that matters depends on whether anyone reads it.
-/

namespace AccessControl.Json

inductive Lexeme where
  | openList
  | closeList
  | openRecord
  | closeRecord
  | comma
  | colon
  | null
  | bool (value : Bool)
  | number (value : Option Number)
  | text (value : Option String)
deriving Inhabited

def digitsValue (cs : List Char) : Nat :=
  cs.foldl (fun n c => 10 * n + (c.toNat - '0'.toNat)) 0

/-- A number literal in its parts. -/
structure NumberLiteral where
  negative : Bool
  whole : List Char
  fraction : List Char
  /-- Sign and digits of the exponent part, when there is one. -/
  power : Option (Bool × List Char)

/-- No digit, or a zero in front of others. -/
def badWhole : List Char → Bool
  | [] => true
  | ['0'] => false
  | c :: _ => c == '0'

/-- The exponent part at the end of a literal: `e`, a sign that may be missing, and digits. -/
def powerPart? : List Char → Option (Option (Bool × List Char))
  | [] => some none
  | e :: cs =>
    if e = 'e' ∨ e = 'E' then
      let (negative, digits) :=
        match cs with
        | '-' :: ds => (true, ds)
        | '+' :: ds => (false, ds)
        | ds => (false, ds)
      if digits.isEmpty || !digits.all Char.isDigit then none else some (some (negative, digits))
    else none

/-- Reads a literal: a minus that may be missing, digits, a point and digits, an exponent. -/
def NumberLiteral.ofChars? (cs : List Char) : Option NumberLiteral := do
  let (negative, cs) :=
    match cs with
    | '-' :: rest => (true, rest)
    | rest => (false, rest)
  let whole := cs.takeWhile Char.isDigit
  if badWhole whole then none
  else
    match cs.dropWhile Char.isDigit with
    | '.' :: rest =>
      let fraction := rest.takeWhile Char.isDigit
      if fraction.isEmpty then none
      else
        let power ← powerPart? (rest.dropWhile Char.isDigit)
        some ⟨negative, whole, fraction, power⟩
    | rest =>
      let power ← powerPart? rest
      some ⟨negative, whole, [], power⟩

/-- Puts digits after a number as long as a 64-bit word holds it, and answers the digits left. -/
def takeDigits (n : Nat) : List Char → Nat × List Char
  | [] => (n, [])
  | c :: cs =>
    let longer := 10 * n + (c.toNat - '0'.toNat)
    if longer < Word.bound 64 then takeDigits longer cs else (n, c :: cs)

/-- The magnitude of a literal, with no more digits than a 64-bit word holds. Whole digits beyond
that count as zeros; decimals beyond that do not count. -/
def NumberLiteral.decimal (l : NumberLiteral) : Decimal :=
  let power : Int :=
    match l.power with
    | none => 0
    | some (true, ds) => -(digitsValue ds : Int)
    | some (false, ds) => digitsValue ds
  let (whole, dropped) := takeDigits 0 l.whole
  let (digits, left) := takeDigits whole l.fraction
  ⟨digits, power + dropped.length - (l.fraction.length - left.length : Nat)⟩

/-- The number a literal stands for: an integer where it fits, a double otherwise, and nothing when
that would be an infinity. Minus zero is a double. -/
def NumberLiteral.value? (l : NumberLiteral) : Option Number :=
  let n := digitsValue l.whole
  if l.fraction.isEmpty && l.power.isNone && !l.negative && n < Word.bound 64 then some (.int n)
  else if l.fraction.isEmpty && l.power.isNone && l.negative && 0 < n && n ≤ Word.bound 63 then
    some (.int (-(n : Int)))
  else l.decimal.scaled?.map fun x => .float (if l.negative then -x else x)

/-- A part of a text: a character, or an escaped 16-bit code. -/
inductive TextUnit where
  | char (value : Char)
  | code (value : Nat)

/-- The character that a one-letter escape stands for. -/
def escaped? : Char → Option Char
  | '"' => some '"'
  | '\\' => some '\\'
  | '/' => some '/'
  | 'b' => some '\x08'
  | 'f' => some '\x0c'
  | 'n' => some '\n'
  | 'r' => some '\r'
  | 't' => some '\t'
  | _ => none

/-- The parts of a text up to its closing quote, put in front of `done`, and what follows. A control
character has to be escaped. -/
def scanUnits (done : List TextUnit) : List Char → Option (List TextUnit × List Char)
  | [] => none
  | '"' :: cs => some (done.reverse, cs)
  | ['\\'] => none
  | '\\' :: 'u' :: a :: b :: c :: d :: cs =>
    match Text.hexCode? a b c d with
    | none => none
    | some n => scanUnits (.code n :: done) cs
  | '\\' :: e :: cs =>
    match escaped? e with
    | none => none
    | some c => scanUnits (.char c :: done) cs
  | c :: cs => if c.toNat < 0x20 then none else scanUnits (.char c :: done) cs

/-- What is left after a text is shorter. -/
theorem scanUnits_length {done : List TextUnit} {cs : List Char} {us : List TextUnit}
    {rest : List Char} (h : scanUnits done cs = some (us, rest)) : rest.length < cs.length := by
  fun_induction scanUnits done cs <;> simp_all <;> omega

/-- Joins the parts of a text; two halves of a surrogate pair are one character, and a half alone
spoils the text. -/
def joinUnits? (done : List Char) : List TextUnit → Option (List Char)
  | [] => some done.reverse
  | .char c :: us => joinUnits? (c :: done) us
  | .code n :: .code m :: us =>
    if 0xD800 ≤ n ∧ n < 0xDC00 then
      if 0xDC00 ≤ m ∧ m < 0xE000 then
        joinUnits? (Char.ofNat (0x10000 + (n - 0xD800) * 0x400 + (m - 0xDC00)) :: done) us
      else none
    else if 0xDC00 ≤ n ∧ n < 0xE000 then none
    else joinUnits? (Char.ofNat n :: done) (.code m :: us)
  | .code n :: us =>
    if 0xD800 ≤ n ∧ n < 0xE000 then none else joinUnits? (Char.ofNat n :: done) us

/-- Blanks between lexemes. -/
def isSpace (c : Char) : Bool :=
  c == ' ' || c == '\n' || c == '\t' || c == '\r'

/-- Characters that can be part of a number. -/
def isNumberChar (c : Char) : Bool :=
  c.isDigit || c == '+' || c == '-' || c == '.' || c == 'e' || c == 'E'

def Lexeme.ofWord? (cs : List Char) : Option Lexeme :=
  if cs = ['t', 'r', 'u', 'e'] then some (.bool true)
  else if cs = ['f', 'a', 'l', 's', 'e'] then some (.bool false)
  else if cs = ['n', 'u', 'l', 'l'] then some .null
  else none

def Lexeme.ofPunctuation? : Char → Option Lexeme
  | '[' => some .openList
  | ']' => some .closeList
  | '{' => some .openRecord
  | '}' => some .closeRecord
  | ',' => some .comma
  | ':' => some .colon
  | _ => none

theorem length_dropWhile_lt {p : Char → Bool} {c : Char} {cs : List Char} (h : p c = true) :
    ((c :: cs).dropWhile p).length < (c :: cs).length := by
  rw [List.dropWhile_cons_of_pos h]
  exact Nat.lt_succ_of_le (List.dropWhile_sublist p).length_le

/-- The lexemes of a text after those in `done`. -/
def scan (done : List Lexeme) (cs : List Char) : Option (List Lexeme) :=
  match cs with
  | [] => some done.reverse
  | c :: rest =>
    if isSpace c then scan done rest
    else if c = '"' then
      match _h : scanUnits [] rest with
      | none => none
      | some (units, after) =>
        scan (.text ((joinUnits? [] units).map String.ofList) :: done) after
    else if _hn : isNumberChar c && c != 'e' then
      match NumberLiteral.ofChars? ((c :: rest).takeWhile isNumberChar) with
      | none => none
      | some l => scan (.number l.value? :: done) ((c :: rest).dropWhile isNumberChar)
    else if _ha : c.isLower then
      match Lexeme.ofWord? ((c :: rest).takeWhile Char.isLower) with
      | none => none
      | some l => scan (l :: done) ((c :: rest).dropWhile Char.isLower)
    else
      match Lexeme.ofPunctuation? c with
      | none => none
      | some l => scan (l :: done) rest
termination_by cs.length
decreasing_by
  · simp
  · have := scanUnits_length _h
    simp only [List.length_cons]; omega
  · exact length_dropWhile_lt (by simp_all)
  · exact length_dropWhile_lt _ha
  · simp

/-- All lexemes of a text, or nothing when a part of it is none. -/
def Lexeme.ofText? (s : String) : Option (List Lexeme) :=
  scan [] s.toList

end AccessControl.Json
