import AccessControl.Json.Lexeme

/-!
Reading JSON text. The reader goes through the lexemes once with a stack of the lists and records
that are still open. An outline says which parts of the text are wanted: what is outside it is
checked for its grammar only and left out, so a number too large for a double, or nesting past the
limit, does no harm there.
-/

namespace AccessControl.Json

/-- Which parts of a value are wanted. -/
inductive Outline where
  /-- Nothing; a null stands in for the value. -/
  | skipped
  /-- All of it. -/
  | whole
  /-- The named entries of a record; a list stands for a record by giving them in this order. -/
  | record (fields : List (String × Outline))
  /-- Every item of a list. -/
  | list (item : Outline)
deriving Inhabited

namespace Outline

def isSkipped : Outline → Bool
  | .skipped => true
  | _ => false

/-- What is wanted of the item at a position. -/
def item : Outline → Nat → Outline
  | .skipped, _ => .skipped
  | .whole, _ => .whole
  | .list o, _ => o
  | .record fields, i => (fields[i]?.map (·.2)).getD .skipped

/-- What is wanted of the entry with a name. -/
def entry : Outline → String → Outline
  | .skipped, _ => .skipped
  | .whole, _ => .whole
  | .list _, _ => .whole
  | .record fields, name => (fields.lookup name).getD .skipped

end Outline

/-- Where reading stands inside a list. -/
inductive ItemStep where
  /-- At an item or the end. -/
  | first
  /-- At an item. -/
  | item
  /-- At a comma or the end. -/
  | after

/-- Where reading stands inside a record. -/
inductive EntryStep where
  /-- At a name or the end. -/
  | first
  /-- At a name. -/
  | name
  /-- At the colon after a name. -/
  | colon (name : String)
  /-- At the value of a name. -/
  | value (name : String)
  /-- At a comma or the end. -/
  | after

/-- A list or record that is still open, its parts so far with the last one first. -/
inductive Frame where
  | list (outline : Outline) (done : List Json) (step : ItemStep)
  | record (outline : Outline) (done : List (String × Json)) (step : EntryStep)

inductive Reading where
  /-- The open lists and records, the innermost first. -/
  | inside (frames : List Frame)
  | finished (value : Json)

/-- Lists and records inside each other, at most. -/
def maxDepth : Nat := 127

/-- Hands a complete value to the innermost open list or record. -/
def deliver (value : Json) : List Frame → Option Reading
  | [] => some (.finished value)
  | .list o done .first :: fs => some (.inside (.list o (value :: done) .after :: fs))
  | .list o done .item :: fs => some (.inside (.list o (value :: done) .after :: fs))
  | .record o done (.value name) :: fs =>
    let kept := if (o.entry name).isSkipped then done else (name, value) :: done
    some (.inside (.record o kept .after :: fs))
  | _ => none

/-- What is wanted of the value that comes next, if one may. -/
def wanted? (top : Outline) : List Frame → Option Outline
  | [] => some top
  | .list o done .first :: _ => some (o.item done.length)
  | .list o done .item :: _ => some (o.item done.length)
  | .record o _ (.value name) :: _ => some (o.entry name)
  | _ => none

/-- Takes a scalar; without a value of its own it has to be unwanted. -/
def takeScalar (top : Outline) (value : Option Json) (frames : List Frame) : Option Reading := do
  let outline ← wanted? top frames
  match value with
  | some value => deliver value frames
  | none => if outline.isSkipped then deliver .null frames else none

/-- Takes the name of an entry. -/
def takeName (name : Option String) (o : Outline) (done : List (String × Json))
    (frames : List Frame) : Option Reading :=
  match name with
  | some name => some (.inside (.record o done (.colon name) :: frames))
  | none => if o.isSkipped then some (.inside (.record o done (.colon "") :: frames)) else none

/-- Opens a list or record with the frame that its outline gives. -/
def openFrame (top : Outline) (frame : Outline → Frame) (frames : List Frame) : Option Reading := do
  let outline ← wanted? top frames
  if outline.isSkipped || frames.length < maxDepth then some (.inside (frame outline :: frames))
  else none

/-- One lexeme further. -/
def step (top : Outline) : Reading → Lexeme → Option Reading
  | .finished _, _ => none
  | .inside (.record o done .first :: fs), .text name => takeName name o done fs
  | .inside (.record o done .name :: fs), .text name => takeName name o done fs
  | .inside (.record o done (.colon name) :: fs), .colon =>
    some (.inside (.record o done (.value name) :: fs))
  | .inside (.record o done .after :: fs), .comma => some (.inside (.record o done .name :: fs))
  | .inside (.list o done .after :: fs), .comma => some (.inside (.list o done .item :: fs))
  | .inside (.record _ done .first :: fs), .closeRecord => deliver (.record done.reverse) fs
  | .inside (.record _ done .after :: fs), .closeRecord => deliver (.record done.reverse) fs
  | .inside (.list _ done .first :: fs), .closeList => deliver (.list done.reverse) fs
  | .inside (.list _ done .after :: fs), .closeList => deliver (.list done.reverse) fs
  | .inside fs, .null => takeScalar top (some .null) fs
  | .inside fs, .bool value => takeScalar top (some (.bool value)) fs
  | .inside fs, .number value => takeScalar top (value.map .number) fs
  | .inside fs, .text value => takeScalar top (value.map .text) fs
  | .inside fs, .openList => openFrame top (.list · [] .first) fs
  | .inside fs, .openRecord => openFrame top (.record · [] .first) fs
  | _, _ => none

def run (top : Outline) (reading : Reading) : List Lexeme → Option Reading
  | [] => some reading
  | l :: ls =>
    match step top reading l with
    | none => none
    | some next => run top next ls

/-- Reads the wanted parts of a text that holds one value and nothing else. -/
def read (outline : Outline) (text : String) : Option Json := do
  let lexemes ← Lexeme.ofText? text
  match ← run outline (.inside []) lexemes with
  | .finished value => some value
  | .inside _ => none

end AccessControl.Json
