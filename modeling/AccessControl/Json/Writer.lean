import AccessControl.Json.Basic
import AccessControl.Decimal.Layout
import AccessControl.Text.Hex

/-!
Writing JSON text: on one line without blanks, or with every item on a line of its own.
-/

namespace AccessControl.Json

/-- A character inside a text: quotes, backslashes and control characters are escaped. -/
def escapeChar (c : Char) : List Char :=
  if c = '"' then ['\\', '"']
  else if c = '\\' then ['\\', '\\']
  else if c = '\x08' then ['\\', 'b']
  else if c = '\x0c' then ['\\', 'f']
  else if c = '\n' then ['\\', 'n']
  else if c = '\r' then ['\\', 'r']
  else if c = '\t' then ['\\', 't']
  else if c.toNat < 0x20 then
    ['\\', 'u', '0', '0', Text.hexChar (c.toNat / 16), Text.hexChar (c.toNat % 16)]
  else [c]

def quote (s : String) : String :=
  String.ofList ('"' :: s.toList.flatMap escapeChar ++ ['"'])

def Number.write : Number → String
  | .int value =>
    if value < 0 then "-" ++ Decimal.digitText value.natAbs else Decimal.digitText value.natAbs
  | .float value => Decimal.writeFloat .json value

def parenthesize (opening : String) (parts : List String) (closing : String) : String :=
  opening ++ String.intercalate "," parts ++ closing

mutual

/-- The text of a value on one line. -/
def write : Json → String
  | .null => "null"
  | .bool value => if value then "true" else "false"
  | .number value => value.write
  | .text value => quote value
  | .list items => parenthesize "[" (writeList items) "]"
  | .record entries => parenthesize "\x7b" (writeEntries entries) "\x7d"

def writeList : List Json → List String
  | [] => []
  | j :: js => write j :: writeList js

def writeEntries : List (String × Json) → List String
  | [] => []
  | (name, j) :: es => (quote name ++ ":" ++ write j) :: writeEntries es

end

/-- The parts of a list or record on lines of their own, two blanks further in than the brackets. -/
def spread (indent : Nat) (opening : String) (parts : List String) (closing : String) : String :=
  let newline (n : Nat) := String.ofList ('\n' :: List.replicate (2 * n) ' ')
  if parts.isEmpty then opening ++ closing
  else
    opening ++ newline (indent + 1) ++ String.intercalate ("," ++ newline (indent + 1)) parts ++
      newline indent ++ closing

mutual

/-- The text of a value over several lines. -/
def pretty (indent : Nat) : Json → String
  | .null => "null"
  | .bool value => if value then "true" else "false"
  | .number value => value.write
  | .text value => quote value
  | .list items => spread indent "[" (prettyList (indent + 1) items) "]"
  | .record entries => spread indent "\x7b" (prettyEntries (indent + 1) entries) "\x7d"

def prettyList (indent : Nat) : List Json → List String
  | [] => []
  | j :: js => pretty indent j :: prettyList indent js

def prettyEntries (indent : Nat) : List (String × Json) → List String
  | [] => []
  | (name, j) :: es => (quote name ++ ": " ++ pretty indent j) :: prettyEntries indent es

end

end AccessControl.Json
