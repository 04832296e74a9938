import AccessControl.Json.Fields
import AccessControl.Json.Reader
import AccessControl.Word

/-!
Pages of a list. Pages count from zero; a position beyond what a 64-bit word counts is past the end
of every list.
-/

namespace AccessControl

structure Pageable where
  page : Nat
  size : Nat

namespace Pageable

def first : Pageable :=
  ⟨0, 20⟩

/-- How many items lie before the page, as far as a 64-bit word counts. -/
def offset (p : Pageable) : Nat :=
  min (p.page * p.size) (Word.bound 64 - 1)

def toJson (p : Pageable) : Json :=
  .record [("page", .nat p.page), ("size", .nat p.size)]

def shape : List Json.Field :=
  [⟨"page", false⟩, ⟨"size", false⟩]

def ofJson? (j : Json) : Option Pageable := do
  let fields ← j.fields? shape
  return {
    page := ← Json.required fields "page" (Json.nat? 64)
    size := ← Json.required fields "size" (Json.nat? 64) }

/-- Reads a page request from JSON text. -/
def ofText? (text : String) : Option Pageable :=
  (Json.read (.record (shape.map fun f => (f.name, .whole))) text).bind ofJson?

end Pageable

/-- A page, with the length of the list it was cut from. -/
structure Page (α : Type) where
  items : List α
  page : Nat
  size : Nat
  total : Nat

namespace Page

variable {α : Type}

def ofList (all : List α) (p : Pageable) : Page α :=
  ⟨(all.drop p.offset).take p.size, p.page, p.size, all.length⟩

theorem getElem?_items_ofList {all : List α} (h : all.length < Word.bound 64) (p : Pageable)
    (i : Nat) :
    (ofList all p).items[i]? = if i < p.size then all[p.page * p.size + i]? else none := by
  rw [ofList, List.getElem?_take, List.getElem?_drop, Pageable.offset]
  split
  · by_cases hb : p.page * p.size ≤ Word.bound 64 - 1
    · rw [Nat.min_eq_left hb]
    · -- The page lies past what a word counts, and so past the end.
      rw [List.getElem?_eq_none (by omega), List.getElem?_eq_none (by omega)]
  · rfl

/-- How many pages cover the list; none where a page holds nothing. -/
def pageCount (p : Page α) : Nat :=
  if p.size = 0 then 0 else (p.total + p.size - 1) / p.size

def toJson (write : α → Json) (p : Page α) : Json :=
  .record [("items", .list (p.items.map write)), ("page", .nat p.page), ("size", .nat p.size),
    ("total", .nat p.total)]

def shape : List Json.Field :=
  [⟨"items", false⟩, ⟨"page", false⟩, ⟨"size", false⟩, ⟨"total", false⟩]

def ofJson? (read : Json → Option α) (j : Json) : Option (Page α) := do
  let fields ← j.fields? shape
  return {
    items := ← Json.required fields "items" (Json.list? read)
    page := ← Json.required fields "page" (Json.nat? 64)
    size := ← Json.required fields "size" (Json.nat? 64)
    total := ← Json.required fields "total" (Json.nat? 64) }

/-- Reads a page of any JSON from JSON text. -/
def ofText? (text : String) : Option (Page Json) :=
  (Json.read (.record (shape.map fun f => (f.name, .whole))) text).bind
    (ofJson? fun j => some j.canonical)

end Page

end AccessControl
