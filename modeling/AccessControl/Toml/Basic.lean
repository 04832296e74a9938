/-!
TOML documents as trees. A table remembers how it came about, because that decides what may still be
added to it: a header can complete a table that was only implied by a longer header, and dotted keys
can only add to tables that dotted keys made.
-/

namespace AccessControl

/-- How a table came about. -/
inductive Toml.Origin where
  /-- It is the root, or a header of its own opened it. -/
  | header
  /-- It lies on the way to the table of a longer header. -/
  | implied
  /-- It lies on the way of a dotted key. -/
  | dotted
  /-- It was written as a value, in braces. -/
  | closed
deriving DecidableEq

inductive Toml where
  | text (value : String)
  | integer (value : Int)
  | float (value : Float)
  | boolean (value : Bool)
  /-- A date, a time of day, or both, as written. -/
  | moment (written : String)
  | list (items : List Toml)
  | table (origin : Toml.Origin) (entries : List (String × Toml))
  /-- The tables of a repeated header. -/
  | tables (items : List (List (String × Toml)))
deriving Inhabited

namespace Toml

/-- The entries of a table. -/
abbrev Entries := List (String × Toml)

/-- Puts a value over the entry with a name that is there already. -/
def replaceEntry (name : String) (value : Toml) (entries : Entries) : Entries :=
  entries.map fun e => if e.1 = name then (name, value) else e

/-- Adds an entry under a dotted key. The tables on the way must come from dotted keys, or from a
repeated header, whose last table is meant. -/
def addDotted (value : Toml) : List String → String → Entries → Option Entries
  | [], name, entries =>
    if (entries.lookup name).isSome then none else some (entries ++ [(name, value)])
  | key :: keys, name, entries =>
    match entries.lookup key with
    | none =>
      (addDotted value keys name []).map fun child => entries ++ [(key, .table .dotted child)]
    | some (.table origin child) =>
      if origin = .dotted ∨ (origin = .implied ∧ keys ≠ []) then
        (addDotted value keys name child).map fun child =>
          replaceEntry key (.table origin child) entries
      else none
    | some (.tables items) =>
      match items.reverse with
      | [] => none
      | child :: before =>
        if keys = [] then none
        else
          (addDotted value keys name child).map fun child =>
            replaceEntry key (.tables (child :: before).reverse) entries
    | some _ => none

/-- Changes the entries of the table that a header path leads to. Tables that are missing on the way
are implied; of the tables of a repeated header the last one is meant. -/
def updateTable (change : Entries → Option Entries) : List String → Entries → Option Entries
  | [], entries => change entries
  | key :: keys, entries =>
    match entries.lookup key with
    | none =>
      (updateTable change keys []).map fun child => entries ++ [(key, .table .implied child)]
    | some (.table .closed _) => none
    | some (.table origin child) =>
      (updateTable change keys child).map fun child =>
        replaceEntry key (.table origin child) entries
    | some (.tables items) =>
      match items.reverse with
      | [] => none
      | child :: before =>
        (updateTable change keys child).map fun child =>
          replaceEntry key (.tables (child :: before).reverse) entries
    | some _ => none

/-- Opens the table of a header among the entries of its parent. -/
def openTable (name : String) (entries : Entries) : Option Entries :=
  match entries.lookup name with
  | none => some (entries ++ [(name, .table .header [])])
  | some (.table .implied child) => some (replaceEntry name (.table .header child) entries)
  | some _ => none

/-- Opens one more table of a repeated header among the entries of its parent. -/
def openRepeated (name : String) (entries : Entries) : Option Entries :=
  match entries.lookup name with
  | none => some (entries ++ [(name, .tables [[]])])
  | some (.tables items) => some (replaceEntry name (.tables (items ++ [[]])) entries)
  | some _ => none

end Toml

end AccessControl
