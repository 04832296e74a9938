import AccessControl.Text.Hex

/-!
Texts and keys of TOML. Every reader answers what it read and the characters after it.
-/

namespace AccessControl.Toml

def isBlank (c : Char) : Bool :=
  c == ' ' || c == '\t'

/-- Characters that need no escape: all but control characters, the tab excepted. -/
def isPlain (c : Char) : Bool :=
  c == '\t' || (0x20 ≤ c.toNat && c.toNat != 0x7F)

def skipBlanks (cs : List Char) : List Char :=
  cs.dropWhile isBlank

/-- The character that a one-letter escape stands for. -/
def escaped? : Char → Option Char
  | 'b' => some '\x08'
  | 't' => some '\t'
  | 'n' => some '\n'
  | 'f' => some '\x0c'
  | 'r' => some '\r'
  | '"' => some '"'
  | '\\' => some '\\'
  | _ => none

/-- The character with a number, which may be no surrogate. -/
def scalar? (n : Nat) : Option Char :=
  if n < 0xD800 ∨ (0xE000 ≤ n ∧ n < 0x110000) then some (Char.ofNat n) else none

/-- The character of an escape with four digits. -/
def shortEscape? (a b c d : Char) : Option Char :=
  (Text.hexCode? a b c d).bind scalar?

/-- The character of an escape with eight digits. -/
def longEscape? (a b c d e f g h : Char) : Option Char := do
  let high ← Text.hexCode? a b c d
  let low ← Text.hexCode? e f g h
  scalar? (high * 0x10000 + low)

/-- A text after its opening quote, on one line. -/
def basicText? (done : List Char) : List Char → Option (List Char × List Char)
  | [] => none
  | '"' :: cs => some (done.reverse, cs)
  | '\\' :: 'u' :: a :: b :: c :: d :: cs =>
    match shortEscape? a b c d with
    | some x => basicText? (x :: done) cs
    | none => none
  | '\\' :: 'U' :: a :: b :: c :: d :: e :: f :: g :: h :: cs =>
    match longEscape? a b c d e f g h with
    | some x => basicText? (x :: done) cs
    | none => none
  | '\\' :: c :: cs =>
    match escaped? c with
    | some x => basicText? (x :: done) cs
    | none => none
  | c :: cs => if isPlain c && c != '\\' then basicText? (c :: done) cs else none

/-- A text after its opening apostrophe, on one line and without escapes. -/
def literalText? (done : List Char) : List Char → Option (List Char × List Char)
  | [] => none
  | '\'' :: cs => some (done.reverse, cs)
  | c :: cs => if isPlain c then literalText? (c :: done) cs else none

/-- Nothing but blanks comes before the end of the line. -/
def lineEndsHere (cs : List Char) : Bool :=
  match skipBlanks cs with
  | '\n' :: _ => true
  | '\r' :: '\n' :: _ => true
  | _ => false

/-- A text over several lines, after its three opening quotes. Up to two quotes may stand in front
of the three that close it. A backslash at the end of a line takes away everything up to the next
character that is neither blank nor a line end; `skipping` says that this is going on. -/
def longBasicText? (skipping : Bool) (done : List Char) : List Char → Option (List Char × List Char)
  | [] => none
  | '"' :: '"' :: '"' :: '"' :: '"' :: cs => some (done.reverse ++ ['"', '"'], cs)
  | '"' :: '"' :: '"' :: '"' :: cs => some (done.reverse ++ ['"'], cs)
  | '"' :: '"' :: '"' :: cs => some (done.reverse, cs)
  | '\\' :: 'u' :: a :: b :: c :: d :: cs =>
    match shortEscape? a b c d with
    | some x => longBasicText? false (x :: done) cs
    | none => none
  | '\\' :: 'U' :: a :: b :: c :: d :: e :: f :: g :: h :: cs =>
    match longEscape? a b c d e f g h with
    | some x => longBasicText? false (x :: done) cs
    | none => none
  | '\\' :: c :: cs =>
    if lineEndsHere (c :: cs) then longBasicText? true done (c :: cs)
    else
      match escaped? c with
      | some x => longBasicText? false (x :: done) cs
      | none => none
  | '\r' :: '\n' :: cs =>
    if skipping then longBasicText? true done cs else longBasicText? false ('\n' :: done) cs
  | c :: cs =>
    if skipping && (isBlank c || c == '\n') then longBasicText? true done cs
    else if (isPlain c && c != '\\') || c == '\n' then longBasicText? false (c :: done) cs
    else none

/-- A text over several lines without escapes, after its three opening apostrophes. -/
def longLiteralText? (done : List Char) : List Char → Option (List Char × List Char)
  | [] => none
  | '\'' :: '\'' :: '\'' :: '\'' :: '\'' :: cs => some (done.reverse ++ ['\'', '\''], cs)
  | '\'' :: '\'' :: '\'' :: '\'' :: cs => some (done.reverse ++ ['\''], cs)
  | '\'' :: '\'' :: '\'' :: cs => some (done.reverse, cs)
  | '\r' :: '\n' :: cs => longLiteralText? ('\n' :: done) cs
  | c :: cs => if isPlain c || c == '\n' then longLiteralText? (c :: done) cs else none

/-- A line end right after the opening quotes is no part of the text. -/
def dropFirstLineEnd : List Char → List Char
  | '\n' :: cs => cs
  | '\r' :: '\n' :: cs => cs
  | cs => cs

/-- A text of any kind, with its quotes. -/
def text? : List Char → Option (String × List Char)
  | '"' :: '"' :: '"' :: cs => named (longBasicText? false [] (dropFirstLineEnd cs))
  | '\'' :: '\'' :: '\'' :: cs => named (longLiteralText? [] (dropFirstLineEnd cs))
  | '"' :: cs => named (basicText? [] cs)
  | '\'' :: cs => named (literalText? [] cs)
  | _ => none
where
  named (read : Option (List Char × List Char)) : Option (String × List Char) :=
    read.map fun r => (String.ofList r.1, r.2)

/-- Characters of a key without quotes. -/
def isKeyChar (c : Char) : Bool :=
  c.isAlphanum || c == '_' || c == '-'

/-- One part of a key. -/
def keyPart? : List Char → Option (String × List Char)
  | '"' :: cs => (basicText? [] cs).map fun r => (String.ofList r.1, r.2)
  | '\'' :: cs => (literalText? [] cs).map fun r => (String.ofList r.1, r.2)
  | cs =>
    let part := cs.takeWhile isKeyChar
    if part.isEmpty then none else some (String.ofList part, cs.dropWhile isKeyChar)

/-- A key of so many parts at most, with dots between them and blanks around them: all parts but the
last, and the last. -/
def key? : Nat → List Char → Option (List String × String × List Char)
  | 0, _ => none
  | parts + 1, cs => do
    let (name, cs) ← keyPart? (skipBlanks cs)
    match skipBlanks cs with
    | '.' :: cs =>
      let (keys, last, cs) ← key? parts cs
      some (name :: keys, last, cs)
    | cs => some ([], name, cs)

/-- How many parts a key may have. -/
def maxKeyParts : Nat :=
  79

end AccessControl.Toml
