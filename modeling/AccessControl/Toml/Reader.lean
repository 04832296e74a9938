import AccessControl.Toml.Number
import AccessControl.Toml.Text

/-!
Reading TOML text. Lists and tables in braces may lie in each other down to a depth; a list may run
over several lines, a table in braces may not. A document is a sequence of entries, headers and
comments, each ending its line.
-/

namespace AccessControl.Toml

/-- Skips blanks, line ends and comments between the items of a list; a comment runs to the end of
its line. -/
def skipLines (inComment : Bool) : List Char → Option (List Char)
  | [] => some []
  | '\n' :: cs => skipLines false cs
  | '\r' :: '\n' :: cs => skipLines false cs
  | c :: cs =>
    if inComment then if isPlain c then skipLines true cs else none
    else if isBlank c then skipLines false cs
    else if c = '#' then skipLines true cs
    else some (c :: cs)

/-- The items of a list up to its closing bracket; `fuel` bounds their number. -/
def items? (read : List Char → Option (Toml × List Char)) :
    Nat → List Toml → List Char → Option (List Toml × List Char)
  | 0, _, _ => none
  | fuel + 1, done, cs => do
    match ← skipLines false cs with
    | ']' :: cs => some (done.reverse, cs)
    | cs =>
      let (value, cs) ← read cs
      match ← skipLines false cs with
      | ',' :: cs => items? read fuel (value :: done) cs
      | ']' :: cs => some ((value :: done).reverse, cs)
      | _ => none

/-- The entries of a table in braces up to its closing one; `fuel` bounds their number. -/
def inlineEntries? (read : List Char → Option (Toml × List Char)) :
    Nat → Entries → List Char → Option (Entries × List Char)
  | 0, _, _ => none
  | fuel + 1, done, cs => do
    let (path, name, cs) ← key? maxKeyParts cs
    let cs ← expect? '=' cs
    let (value, cs) ← read (skipBlanks cs)
    let done ← addDotted value path name done
    match skipBlanks cs with
    | ',' :: cs => inlineEntries? read fuel done cs
    | '}' :: cs => some (done, cs)
    | _ => none

/-- A table in braces after its opening one. -/
def inlineTable? (read : List Char → Option (Toml × List Char)) (cs : List Char) :
    Option (Toml × List Char) :=
  match skipBlanks cs with
  | '}' :: cs => some (.table .closed [], cs)
  | cs => (inlineEntries? read cs.length [] cs).map fun r => (.table .closed r.1, r.2)

/-- A value that contains no other. -/
def scalarValue? : List Char → Option (Toml × List Char)
  | '"' :: cs => (text? ('"' :: cs)).map fun r => (.text r.1, r.2)
  | '\'' :: cs => (text? ('\'' :: cs)).map fun r => (.text r.1, r.2)
  | 't' :: 'r' :: 'u' :: 'e' :: cs => some (.boolean true, cs)
  | 'f' :: 'a' :: 'l' :: 's' :: 'e' :: cs => some (.boolean false, cs)
  | cs => numberOrMoment? cs

/-- A value with so many levels of lists and tables in braces at most. -/
def value? : Nat → List Char → Option (Toml × List Char)
  | 0, cs => scalarValue? cs
  | levels + 1, cs =>
    match cs with
    | '[' :: cs => (items? (value? levels) (cs.length + 1) [] cs).map fun r => (.list r.1, r.2)
    | '{' :: cs => inlineTable? (value? levels) cs
    | cs => scalarValue? cs

/-- How deep lists and tables in braces may lie in each other. -/
def maxLevels : Nat :=
  79

/-- What follows a comment and the end of its line. -/
def afterComment? : List Char → Option (List Char)
  | [] => some []
  | '\n' :: cs => some cs
  | '\r' :: '\n' :: cs => some cs
  | c :: cs => if isPlain c then afterComment? cs else none

/-- What follows the end of a line, in front of which only blanks and a comment may stand. -/
def afterLine? (cs : List Char) : Option (List Char) :=
  match skipBlanks cs with
  | [] => some []
  | '\n' :: cs => some cs
  | '\r' :: '\n' :: cs => some cs
  | '#' :: cs => afterComment? cs
  | _ => none

/-- A header's key, and what follows its line. -/
def header? (closing : List Char) (cs : List Char) : Option (List String × String × List Char) := do
  let (path, name, cs) ← key? maxKeyParts cs
  if closing.isPrefixOf cs then
    let cs ← afterLine? (cs.drop closing.length)
    some (path, name, cs)
  else none

/-- Reads statements: `root` is what they made so far, `current` the path of the header they stand
under, and `fuel` bounds their number. -/
def statements? : Nat → Entries → List String → List Char → Option Entries
  | 0, _, _, _ => none
  | fuel + 1, root, current, cs => do
    match skipBlanks cs with
    | [] => some root
    | '\n' :: cs => statements? fuel root current cs
    | '\r' :: '\n' :: cs => statements? fuel root current cs
    | '#' :: cs =>
      let cs ← afterComment? cs
      statements? fuel root current cs
    | '[' :: '[' :: cs =>
      let (path, name, cs) ← header? [']', ']'] cs
      let root ← updateTable (openRepeated name) path root
      statements? fuel root (path ++ [name]) cs
    | '[' :: cs =>
      let (path, name, cs) ← header? [']'] cs
      let root ← updateTable (openTable name) path root
      statements? fuel root (path ++ [name]) cs
    | cs =>
      let (path, name, cs) ← key? maxKeyParts cs
      let cs ← expect? '=' cs
      let (value, cs) ← value? maxLevels (skipBlanks cs)
      let cs ← afterLine? cs
      let root ← updateTable (addDotted value path name) current root
      statements? fuel root current cs

/-- Reads a document. A byte order mark may stand in front of it. -/
def ofText? (text : String) : Option Toml :=
  let cs :=
    match text.toList with
    | '\ufeff' :: cs => cs
    | cs => cs
  (statements? (cs.length + 1) [] [] cs).map (.table .header)

end AccessControl.Toml
