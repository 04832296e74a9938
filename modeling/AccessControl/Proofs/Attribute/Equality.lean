import AccessControl.Attribute.Comparison
import AccessControl.Proofs.Decimal.Order
import AccessControl.Proofs.Text.Parts
import Mathlib.Data.List.Forall2

/-!
Equality of attribute values and what contains what. Equality goes through lists of any nesting item
by item; only NaN, wherever it stands, keeps a value from being equal to itself.
-/

namespace AccessControl

namespace AttributeValue

/-- Induction with a hypothesis for every item of a list. -/
@[induction_eliminator]
theorem ind {P : AttributeValue → Prop} (boolean : ∀ value, P (.boolean value))
    (number : ∀ value, P (.number value)) (text : ∀ value, P (.text value))
    (list : ∀ items, (∀ v ∈ items, P v) → P (.list items)) : ∀ v, P v := by
  refine @AttributeValue.rec P (fun vs => ∀ v ∈ vs, P v) boolean number text list ?_ ?_
  · intro v hv
    cases hv
  · intro v vs hv hvs w hw
    rcases List.mem_cons.mp hw with rfl | hw
    · exact hv
    · exact hvs w hw

/-- The first value is the second one or stands inside it, in lists of any nesting. -/
inductive OccursIn : AttributeValue → AttributeValue → Prop
  | self (v : AttributeValue) : OccursIn v v
  | item {v x : AttributeValue} {items : List AttributeValue} (hx : x ∈ items)
      (h : OccursIn v x) : OccursIn v (.list items)

theorem number_occursIn_list {x : Float} {items : List AttributeValue} :
    OccursIn (.number x) (.list items) ↔ ∃ v ∈ items, OccursIn (.number x) v := by
  constructor
  · rintro (_ | ⟨hv, h⟩)
    exact ⟨_, hv, h⟩
  · rintro ⟨v, hv, h⟩
    exact .item hv h

variable {a b c v : AttributeValue} {as bs items : List AttributeValue}

theorem agreesList_iff_forall₂ :
    agreesList as bs = true ↔ List.Forall₂ (fun a b => agrees a b = true) as bs := by
  induction as generalizing bs with
  | nil => cases bs <;> simp [agreesList]
  | cons a as ih => cases bs <;> simp [agreesList, ih]

/-- Lists agree item by item. -/
theorem agrees_list_iff : agrees (.list as) (.list bs) = true ↔ as.length = bs.length ∧
    ∀ i (ha : i < as.length) (hb : i < bs.length), agrees as[i] bs[i] = true := by
  rw [agrees, agreesList_iff_forall₂, List.forall₂_iff_get]
  rfl

theorem agrees_symm (h : agrees a b = true) : agrees b a = true := by
  induction a generalizing b with
  | boolean p => cases b <;> simp_all [agrees]
  | number x =>
    cases b <;> try exact h
    rename_i y
    simp only [agrees, Dyadic.beq_iff] at h ⊢
    exact ⟨h.1.symm, h.2.symm⟩
  | text s => cases b <;> simp_all [agrees]
  | list as ih =>
    cases b <;> try exact h
    rename_i bs
    obtain ⟨hlength, hitems⟩ := agrees_list_iff.mp h
    exact agrees_list_iff.mpr
      ⟨hlength.symm, fun i hb ha => ih _ (List.getElem_mem ha) (hitems i ha hb)⟩

theorem agrees_trans (hab : agrees a b = true) (hbc : agrees b c = true) : agrees a c = true := by
  induction a generalizing b c with
  | boolean p => cases b <;> cases c <;> simp_all [agrees]
  | number x =>
    cases b <;> cases c <;> simp only [agrees, Dyadic.beq_iff, Bool.false_eq_true] at hab hbc ⊢
    exact ⟨⟨hab.1.1, hbc.1.2⟩, hab.2.trans hbc.2⟩
  | text s => cases b <;> cases c <;> simp_all [agrees]
  | list as ih =>
    cases b <;> try cases hab
    cases c <;> try cases hbc
    rename_i bs cs
    obtain ⟨hlength, hitems⟩ := agrees_list_iff.mp hab
    obtain ⟨hlength', hitems'⟩ := agrees_list_iff.mp hbc
    refine agrees_list_iff.mpr ⟨hlength.trans hlength', fun i ha hc => ?_⟩
    exact ih _ (List.getElem_mem ha) (hitems i ha (hlength ▸ ha)) (hitems' i (hlength ▸ ha) hc)

/-- A value agrees with itself exactly if NaN stands nowhere in it. -/
theorem agrees_self_iff :
    agrees a a = true ↔ ∀ x, OccursIn (.number x) a → x.isNaN = false := by
  induction a with
  | boolean p => simpa [agrees] using fun x h => by cases h
  | number y =>
    rw [agrees, Dyadic.beq_iff]
    constructor
    · rintro h x ⟨⟩
      exact h.1.1
    · intro h
      have hy := h y (.self _)
      exact ⟨⟨hy, hy⟩, rfl⟩
  | text s => simpa [agrees] using fun x h => by cases h
  | list as ih =>
    rw [agrees_list_iff]
    constructor
    · intro h x hx
      obtain ⟨v, hv, hx⟩ := number_occursIn_list.mp hx
      obtain ⟨i, hi, rfl⟩ := List.getElem_of_mem hv
      exact (ih _ hv).mp (h.2 i hi hi) x hx
    · intro h
      refine ⟨rfl, fun i hi _ => (ih _ (List.getElem_mem hi)).mpr fun x hx => ?_⟩
      exact h x (.item (List.getElem_mem hi) hx)

theorem equal?_eq_some_true_iff : a.equal? b = some true ↔ agrees a b = true := by
  cases a <;> cases b <;> simp [equal?, agrees]

theorem isSome_equal?_iff : (a.equal? b).isSome = true ↔ a.kind = b.kind := by
  cases a <;> cases b <;> simp [equal?, kind]

theorem equal?_comm (a b : AttributeValue) : a.equal? b = b.equal? a := by
  have hagrees : agrees a b = agrees b a := Bool.eq_iff_iff.mpr ⟨agrees_symm, agrees_symm⟩
  cases a <;> cases b <;> first | rfl | rw [equal?, equal?, hagrees]

theorem contain?_list (items : List AttributeValue) (v : AttributeValue) :
    contain? (.list items) v = some (decide (∃ x ∈ items, x.equal? v = some true)) := by
  simp only [contain?, equal?_eq_some_true_iff]
  congr 1
  rw [Bool.eq_iff_iff, List.any_eq_true, decide_eq_true_iff]

end AttributeValue

namespace Comparison

open AttributeValue (OccursIn)

/-- Which values are equal, and which lists and texts contain, begin with and end with what. -/
theorem equality_and_containment (a b c : AttributeValue) :
    equals.apply a b = equals.apply b a ∧
    (equals.apply a b = some true → equals.apply b c = some true →
      equals.apply a c = some true) ∧
    (equals.apply a a = some true ↔ ∀ x, OccursIn (.number x) a → x.isNaN = false) ∧
    (∀ as bs, equals.apply (.list as) (.list bs) = some true ↔ as.length = bs.length ∧
      ∀ i (ha : i < as.length) (hb : i < bs.length), equals.apply as[i] bs[i] = some true) ∧
    (∀ items v, contains.apply (.list items) v =
      some (decide (∃ x ∈ items, equals.apply x v = some true))) ∧
    (∀ l r, contains.apply (.text l) (.text r) = some true ↔ ∃ p s, l = p ++ r ++ s) ∧
    (∀ l r, beginsWith.apply (.text l) (.text r) = some true ↔ ∃ s, l = r ++ s) ∧
    (∀ l r, endsWith.apply (.text l) (.text r) = some true ↔ ∃ p, l = p ++ r) ∧
    ((equals.apply a b).isSome = true ↔ a.kind = b.kind) ∧
    ((contains.apply a b).isSome = true ↔
      a.kind = "list" ∨ a.kind = "text" ∧ b.kind = "text") ∧
    (∀ f ∈ [beginsWith, endsWith],
      (f.apply a b).isSome = true ↔ a.kind = "text" ∧ b.kind = "text") := by
  refine ⟨AttributeValue.equal?_comm a b, ?_, ?_, ?_, AttributeValue.contain?_list, ?_, ?_, ?_,
    AttributeValue.isSome_equal?_iff, ?_, ?_⟩
  · simp only [apply, AttributeValue.equal?_eq_some_true_iff]
    exact AttributeValue.agrees_trans
  · rw [apply, AttributeValue.equal?_eq_some_true_iff]
    exact AttributeValue.agrees_self_iff
  · intro as bs
    simp only [apply, AttributeValue.equal?_eq_some_true_iff]
    exact AttributeValue.agrees_list_iff
  · intro l r
    rw [apply, AttributeValue.contain?, Option.some.injEq, Text.contains_iff]
  · intro l r
    rw [apply, AttributeValue.beginWith?, Option.some.injEq, Text.startsWith_iff]
  · intro l r
    rw [apply, AttributeValue.endWith?, Option.some.injEq, Text.endsWith_iff]
  · cases a <;> cases b <;> simp [apply, AttributeValue.contain?, AttributeValue.kind]
  · intro f hf
    simp only [List.mem_cons, List.not_mem_nil, or_false] at hf
    rcases hf with rfl | rfl <;> cases a <;> cases b <;>
      simp [apply, AttributeValue.beginWith?, AttributeValue.endWith?, AttributeValue.kind]

/-- A list with a number in a list of its own. -/
def inList (x : Float) : AttributeValue :=
  .list [.list [.number x], .text "on"]

/-- Zeros of either sign are equal, inside lists too. -/
theorem equality_of_nested_zeros :
    equals.apply (inList 0.0) (inList (-0.0)) = some true ∧
    equals.apply (inList (-0.0)) (inList 0) = some true ∧
    equals.apply (inList 0.0) (inList 0) = some true ∧
    (beginsWith.apply (inList 0.0) (inList (-0.0))).isSome = false := by
  have hfirst : equals.apply (inList 0.0) (inList (-0.0)) = some true := by decide
  have hsecond : equals.apply (inList (-0.0)) (inList 0) = some true := by decide
  obtain ⟨-, htrans, -, -, -, -, -, -, -, -, hends⟩ :=
    equality_and_containment (inList 0.0) (inList (-0.0)) (inList 0)
  refine ⟨hfirst, hsecond, htrans hfirst hsecond, ?_⟩
  rw [Bool.eq_false_iff, Ne, hends .beginsWith (by decide)]
  decide

end Comparison

end AccessControl
