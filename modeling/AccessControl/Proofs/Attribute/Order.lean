import AccessControl.Proofs.Attribute.Equality

/-!
The order among attribute values. Texts have an order of their own and so have the numbers but NaN;
everything else has no place in either.
-/

namespace AccessControl

namespace AttributeValue

/-- Two values with a place in one order. -/
inductive Ordered : AttributeValue → AttributeValue → Prop
  | number (x y : Float) (hx : x.isNaN = false) (hy : y.isNaN = false) :
      Ordered (.number x) (.number y)
  | text (s t : String) : Ordered (.text s) (.text t)

variable {a b c : AttributeValue} {o : Ordering}

/-- Numbers but NaN come in the order of the integers that they are multiples of. -/
theorem order?_number (x y : Float) : order? (.number x) (.number y) =
    if x.isNaN = false ∧ y.isNaN = false then
      some (compare (Dyadic.signedUnits x) (Dyadic.signedUnits y))
    else none := by
  by_cases hnan : x.isNaN = false ∧ y.isNaN = false
  · simp only [order?, Dyadic.lt_iff, Dyadic.beq_iff, hnan, and_self, true_and, if_true]
    rcases Int.lt_trichotomy (Dyadic.signedUnits x) (Dyadic.signedUnits y) with h | h | h
    · rw [if_pos h, Std.compare_eq_lt.mpr h]
    · rw [if_neg (by omega), if_pos h, Std.compare_eq_iff_eq.mpr h]
    · rw [if_neg (by omega), if_neg (by omega), if_pos h, Std.compare_eq_gt.mpr h]
  · have hnan' : ¬ (y.isNaN = false ∧ x.isNaN = false) := fun h => hnan h.symm
    simp only [order?, Dyadic.lt_iff, Dyadic.beq_iff, hnan, hnan', false_and, if_false]

theorem isSome_order?_iff : (a.order? b).isSome = true ↔ Ordered a b := by
  constructor
  · intro h
    cases a <;> cases b <;> try cases h
    · rename_i x y
      by_cases hnan : x.isNaN = false ∧ y.isNaN = false
      · exact .number x y hnan.1 hnan.2
      · rw [order?_number, if_neg hnan] at h
        cases h
    · exact .text _ _
  · rintro (⟨x, y, hx, hy⟩ | ⟨s, t⟩)
    · rw [order?_number, if_pos ⟨hx, hy⟩]
      rfl
    · rfl

theorem order?_swap (a b : AttributeValue) : b.order? a = (a.order? b).map Ordering.swap := by
  cases a <;> cases b <;> try rfl
  · rename_i x y
    rw [order?_number, order?_number]
    by_cases hnan : x.isNaN = false ∧ y.isNaN = false
    · rw [if_pos hnan, if_pos hnan.symm, Option.map_some, Int.compare_swap]
    · rw [if_neg hnan, if_neg (mt And.symm hnan), Option.map_none]
  · rename_i s t
    cases hst : Text.less s t <;> cases hts : Text.less t s <;> simp [order?, hst, hts]
    simp [Text.less_asymm hst] at hts

/-- Of two values in an order neither comes first exactly if they are equal. -/
theorem equal?_of_order? (h : a.order? b = some o) : a.equal? b = some (o == .eq) := by
  have hordered : Ordered a b := isSome_order?_iff.mp (by rw [h]; rfl)
  cases hordered with
  | number x y hx hy =>
    rw [order?_number, if_pos ⟨hx, hy⟩] at h
    obtain rfl := Option.some.inj h
    rw [equal?, agrees]
    congr 1
    rw [Bool.eq_iff_iff, Dyadic.beq_iff, beq_iff_eq, Std.compare_eq_iff_eq]
    exact ⟨And.right, And.intro ⟨hx, hy⟩⟩
  | text s t =>
    have hequal : equal? (.text s) (.text t) = some (s == t) := by rw [equal?, agrees]
    rw [hequal]
    cases hst : Text.less s t with
    | true =>
      obtain rfl : Ordering.lt = o := by simpa [order?, hst] using h
      simp [Text.ne_of_less hst]
    | false =>
      cases hts : Text.less t s with
      | true =>
        obtain rfl : Ordering.gt = o := by simpa [order?, hst, hts] using h
        simp [(Text.ne_of_less hts).symm]
      | false =>
        obtain rfl : Ordering.eq = o := by simpa [order?, hst, hts] using h
        simp [Text.eq_of_not_less hst hts]

theorem order?_text_eq_lt_iff {s t : String} :
    order? (.text s) (.text t) = some .lt ↔ Text.less s t = true := by
  cases hst : Text.less s t <;> cases hts : Text.less t s <;> simp [order?, hst, hts]

theorem order?_number_eq_lt_iff {x y : Float} :
    order? (.number x) (.number y) = some .lt ↔
      (x.isNaN = false ∧ y.isNaN = false) ∧ Dyadic.signedUnits x < Dyadic.signedUnits y := by
  rw [order?_number, Option.ite_none_right_eq_some, Option.some.injEq, Std.compare_eq_lt]

theorem order?_trans (hab : a.order? b = some .lt) (hbc : b.order? c = some .lt) :
    a.order? c = some .lt := by
  have hordered : Ordered a b := isSome_order?_iff.mp (by rw [hab]; rfl)
  have hordered' : Ordered b c := isSome_order?_iff.mp (by rw [hbc]; rfl)
  cases hordered with
  | number x y hx hy =>
    cases hordered' with
    | number _ z _ hz =>
      rw [order?_number_eq_lt_iff] at hab hbc ⊢
      exact ⟨⟨hx, hz⟩, Int.lt_trans hab.2 hbc.2⟩
  | text s t =>
    cases hordered' with
    | text _ u =>
      rw [order?_text_eq_lt_iff] at hab hbc ⊢
      exact Text.less_trans hab hbc

end AttributeValue

namespace Comparison

open AttributeValue (Ordered)

/-- The comparisons that ask for an order. -/
def orderings : List Comparison :=
  [.greaterThan, .greaterThanOrEqual, .lessThan, .lessThanOrEqual]

variable {a b c : AttributeValue} {f : Comparison}

theorem isSome_apply_iff (hf : f ∈ orderings) : (f.apply a b).isSome = true ↔ Ordered a b := by
  rw [← AttributeValue.isSome_order?_iff]
  simp only [orderings, List.mem_cons, List.not_mem_nil, or_false] at hf
  rcases hf with rfl | rfl | rfl | rfl <;> simp [apply]

/-- Of two values with an order between them one comes first or they are equal. -/
theorem existsUnique_apply (h : Ordered a b) :
    ∃! f, f ∈ [lessThan, equals, greaterThan] ∧ f.apply a b = some true := by
  obtain ⟨o, ho⟩ := Option.isSome_iff_exists.mp (AttributeValue.isSome_order?_iff.mpr h)
  have hequal := AttributeValue.equal?_of_order? ho
  cases o with
  | lt => exact ⟨.lessThan, by simp [apply, ho], by simp [apply, ho, hequal]⟩
  | eq => exact ⟨.equals, by simp [apply, hequal], by simp [apply, ho]⟩
  | gt => exact ⟨.greaterThan, by simp [apply, ho], by simp [apply, ho, hequal]⟩

theorem lessThan_eq_some_true_iff :
    lessThan.apply a b = some true ↔ a.order? b = some .lt := by
  simp [apply]

theorem lessThanOrEqual_eq (a b : AttributeValue) :
    lessThanOrEqual.apply a b = (greaterThan.apply a b).map not := by
  cases h : a.order? b <;> simp [apply, h, bne]

theorem greaterThanOrEqual_eq (a b : AttributeValue) :
    greaterThanOrEqual.apply a b = (lessThan.apply a b).map not := by
  cases h : a.order? b <;> simp [apply, h, bne]

theorem lessThan_eq_greaterThan (a b : AttributeValue) :
    lessThan.apply a b = greaterThan.apply b a := by
  rw [apply, apply, AttributeValue.order?_swap a b, Option.map_map]
  congr 1
  funext o
  cases o <;> rfl

/-- The comparisons are one order of the texts, by code point, and one of the numbers but NaN, by
value, and they have no answer elsewhere. -/
theorem one_order_per_kind (a b c : AttributeValue) :
    (∀ f ∈ orderings, (f.apply a b).isSome = true ↔ Ordered a b) ∧
    ((equals.apply a b).isSome = true ↔ a.kind = b.kind) ∧
    (Ordered a b → ∃! f, f ∈ [lessThan, equals, greaterThan] ∧ f.apply a b = some true) ∧
    lessThanOrEqual.apply a b = (greaterThan.apply a b).map not ∧
    greaterThanOrEqual.apply a b = (lessThan.apply a b).map not ∧
    lessThan.apply a b = greaterThan.apply b a ∧
    (lessThan.apply a b = some true → lessThan.apply b c = some true →
      lessThan.apply a c = some true) ∧
    (∀ s t, lessThan.apply (.text s) (.text t) = some true ↔
      List.Lex (fun c d => c.toNat < d.toNat) s.toList t.toList) ∧
    (∀ x y, lessThan.apply (.number x) (.number y) = some true ↔
      (x.isNaN = false ∧ y.isNaN = false) ∧ Dyadic.signedUnits x < Dyadic.signedUnits y) ∧
    notEquals.apply a b = (equals.apply a b).map not ∧
    notContains.apply a b = (contains.apply a b).map not := by
  refine ⟨fun f hf => isSome_apply_iff hf, AttributeValue.isSome_equal?_iff, existsUnique_apply,
    lessThanOrEqual_eq a b, greaterThanOrEqual_eq a b, lessThan_eq_greaterThan a b, ?_, ?_, ?_, rfl,
    rfl⟩
  · simp only [lessThan_eq_some_true_iff]
    exact AttributeValue.order?_trans
  · intro s t
    rw [lessThan_eq_some_true_iff, AttributeValue.order?_text_eq_lt_iff, Text.less,
      Text.lessChars_iff_lex]
  · intro x y
    rw [lessThan_eq_some_true_iff, AttributeValue.order?_number_eq_lt_iff]

/-- A text, a continuation of it and a later one. -/
theorem one_order_of_continuations :
    Ordered (.text "pump") (.text "pump-2") ∧
    lessThan.apply (.text "pump") (.text "pump-2") = some true ∧
    lessThan.apply (.text "pump-2") (.text "pumps") = some true ∧
    (∃! f, f ∈ [lessThan, equals, greaterThan] ∧
      f.apply (.text "pump") (.text "pump-2") = some true) ∧
    lessThan.apply (.text "pump") (.text "pumps") = some true := by
  have hordered : Ordered (.text "pump") (.text "pump-2") := .text _ _
  have hfirst : lessThan.apply (.text "pump") (.text "pump-2") = some true := by decide
  have hsecond : lessThan.apply (.text "pump-2") (.text "pumps") = some true := by decide
  obtain ⟨hasked, -, hunique, -, -, -, htrans, -⟩ :=
    one_order_per_kind (.text "pump") (.text "pump-2") (.text "pumps")
  exact ⟨(hasked .lessThan (by decide)).mp (by rw [hfirst]; rfl), hfirst, hsecond, hunique hordered,
    htrans hfirst hsecond⟩

end Comparison

end AccessControl
