/-!
Text for a terminal: pieces of text in a style, and the control sequences that switch styles. Where
the text goes elsewhere, `withoutControls` takes out every sequence and every control character
that does not lay out text.
-/

namespace AccessControl.Text.Terminal

/-- A piece of text and how it stands out. -/
inductive Span where
  | plain (text : String)
  | bold (text : String)
  /-- Bold and underlined. -/
  | title (text : String)

def Span.text : Span → String
  | .plain text | .bold text | .title text => text

/-- A piece with the sequences that switch its style on and off. -/
def Span.write : Span → String
  | .plain text => text
  | .bold text => "\x1b[1m" ++ text ++ "\x1b[0m"
  | .title text => "\x1b[1m\x1b[4m" ++ text ++ "\x1b[0m"

/-- The columns that a line takes. Sequences take none. -/
def width : List Span → Nat
  | [] => 0
  | span :: rest => span.text.length + width rest

/-- Lines one below the other. -/
def write (lines : List (List Span)) : String :=
  "\n".intercalate (lines.map fun line => String.join (line.map Span.write))

/-- Where a character stands. -/
inductive Phase where
  | ground
  | escape
  /-- After an escape and a punctuation mark or a blank. -/
  | intermediate
  /-- After an escape and an opening bracket. -/
  | control
  /-- Inside a string for the device. Only another escape or a cancelling character ends it. -/
  | deviceString
  /-- Inside a command for the system, which a bell ends too. -/
  | systemCommand
deriving DecidableEq

/-- The phase after a character. -/
def Phase.next (phase : Phase) (c : Char) : Phase :=
  if c = '\x1b' then .escape
  else if c = '\x18' ∨ c = '\x1a' then .ground
  else
    match phase with
    | .ground => .ground
    | .escape =>
      if ' ' ≤ c ∧ c ≤ '/' then .intermediate
      else if c = '[' then .control
      else if c = ']' then .systemCommand
      else if c = 'P' ∨ c = 'X' ∨ c = '^' ∨ c = '_' then .deviceString
      else if '0' ≤ c ∧ c ≤ '~' then .ground
      else .escape
    | .intermediate => if '0' ≤ c ∧ c ≤ '~' then .ground else .intermediate
    | .control => if '@' ≤ c ∧ c ≤ '~' then .ground else .control
    | .deviceString => .deviceString
    | .systemCommand => if c = '\x07' then .ground else .systemCommand

/-- The control characters that lay out text. -/
def isLayout (c : Char) : Bool :=
  c == '\t' || c == '\n' || c == '\x0c' || c == '\r'

/-- Layout is shown inside a short sequence too, but not inside a string or a command. -/
def Phase.shows (phase : Phase) (c : Char) : Bool :=
  match phase with
  | .ground => isLayout c || (' ' ≤ c && c != '\x7f')
  | .escape | .intermediate | .control => isLayout c
  | .deviceString | .systemCommand => false

/-- The characters that are shown. One that is shown starts a stretch of text, even inside a
sequence. The stretch ends before the first character that text does not show, and there the
sequence goes on, unless the stretch has a character beyond ASCII. -/
def shown (inText : Bool) (phase : Phase) : List Char → List Char
  | [] => []
  | c :: cs =>
    if inText && Phase.ground.shows c then
      c :: shown true (if c.toNat < 128 then phase else .ground) cs
    else if !inText && phase.shows c then c :: shown true (phase.next c) cs
    else shown false (phase.next c) cs

def withoutControls (text : String) : String :=
  String.ofList (shown false .ground text.toList)

end AccessControl.Text.Terminal
