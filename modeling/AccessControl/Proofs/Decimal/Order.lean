import AccessControl.Proofs.Decimal.Fields

/-!
The order of doubles. Every double but NaN is an integer in units of the least positive one, and
doubles compare as these integers do; NaN compares with nothing.
-/

open Float.Model Float.Model.UnpackedFloat

namespace AccessControl.Dyadic

/-- How often the least positive double goes into a magnitude. -/
def units (d : Dyadic) : Nat :=
  d.mantissa * 2 ^ (d.exponent + 1074).toNat

variable {c d : Dyadic}

theorem Canonical.units_lt (hc : c.Canonical) (hd : d.Canonical) (h : c.exponent < d.exponent) :
    c.units < d.units := by
  have hge := hc.exponent_ge
  calc c.mantissa * 2 ^ (c.exponent + 1074).toNat
      < 2 ^ 53 * 2 ^ (c.exponent + 1074).toNat :=
        Nat.mul_lt_mul_of_pos_right hc.mantissa_lt (Nat.two_pow_pos _)
    _ = 2 ^ 52 * 2 ^ ((c.exponent + 1074).toNat + 1) := by rw [Nat.pow_succ]; omega
    _ ≤ 2 ^ 52 * 2 ^ (d.exponent + 1074).toNat :=
        Nat.mul_le_mul_left _ (Nat.pow_le_pow_right (by decide) (by omega))
    _ ≤ d.mantissa * 2 ^ (d.exponent + 1074).toNat :=
        Nat.mul_le_mul_right _ (hd.le_mantissa (by omega))

/-- Of two canonical magnitudes the exponents decide, and between equal ones the mantissas. -/
theorem Canonical.compare_units (hc : c.Canonical) (hd : d.Canonical) :
    compare c.units d.units =
      (compare c.exponent d.exponent).then (compare c.mantissa d.mantissa) := by
  rcases Int.lt_trichotomy c.exponent d.exponent with h | h | h
  · rw [Std.compare_eq_lt.mpr h, Std.compare_eq_lt.mpr (hc.units_lt hd h), Ordering.lt_then]
  · have hscale : 0 < 2 ^ (d.exponent + 1074).toNat := Nat.two_pow_pos _
    rw [h, Std.compare_self, Ordering.eq_then, units, units, h]
    simp only [Nat.compare_eq_ite_lt, Nat.mul_lt_mul_right hscale]
  · rw [Std.compare_eq_gt.mpr h, Std.compare_eq_gt.mpr (hd.units_lt hc h), Ordering.gt_then]

/-- A double as an integer: how often the least positive double goes into it, with its sign. The
infinities count as the first power of two beyond the finite doubles. -/
def signedUnits (x : Float) : Int :=
  (sign x).apply (ofFloat x).units

theorem canonical_infinity : Canonical ⟨2 ^ 52, 972⟩ :=
  ⟨by decide, by decide, fun _ => Nat.le_refl _⟩

theorem units_pos (h : 0 < d.mantissa) : 0 < d.units :=
  Nat.mul_pos h (Nat.two_pow_pos _)

theorem units_lt_infinity (h : d.Canonical) (hlt : d.exponent < 972) :
    d.units < units ⟨2 ^ 52, 972⟩ :=
  h.units_lt canonical_infinity hlt

/-- Below zero the greater magnitude comes first. -/
theorem compare_apply (s t : Sign) {m n : Nat} (hm : 0 < m) (hn : 0 < n) :
    compare (s.apply m) (t.apply n) =
      match s, t with
      | .negative, .negative => (compare m n).swap
      | .negative, .positive => .lt
      | .positive, .negative => .gt
      | .positive, .positive => compare m n := by
  cases s <;> cases t <;> simp only [Sign.apply]
  · rw [Nat.compare_swap, Nat.compare_eq_ite_lt, Int.compare_eq_ite_lt]
    simp only [Int.neg_lt_neg_iff, Int.ofNat_lt]
  · rw [Std.compare_eq_lt]
    omega
  · rw [Std.compare_eq_gt]
    omega
  · rw [Nat.compare_eq_ite_lt, Int.compare_eq_ite_lt]
    simp only [Int.ofNat_lt]

theorem compare_apply_zero (s : Sign) {m : Nat} (hm : 0 < m) :
    compare (s.apply m) 0 = match s with | .negative => .lt | .positive => .gt := by
  cases s <;> simp only [Sign.apply]
  · rw [Std.compare_eq_lt]
    omega
  · rw [Std.compare_eq_gt]
    omega

theorem compare_zero_apply (s : Sign) {m : Nat} (hm : 0 < m) :
    compare 0 (s.apply m) = match s with | .negative => .gt | .positive => .lt := by
  rw [← Int.compare_swap, compare_apply_zero s hm]
  cases s <;> rfl

variable {x y : Float} {u v : UnpackedFloat}

theorem canonical_of_eq (h : ofFloat x = d) : d.Canonical :=
  h ▸ canonical_ofFloat x

theorem signedUnits_eq (h : ofFloat x = d) : signedUnits x = (sign x).apply d.units := by
  rw [signedUnits, h]

theorem signedUnits_eq_zero {e : Int} (h : ofFloat x = ⟨0, e⟩) : signedUnits x = 0 := by
  rw [signedUnits_eq h, units, Nat.zero_mul]
  cases sign x <;> rfl

/-- Unpacked doubles compare as the integers that they stand for. -/
theorem Unpacked.compare_eq (hu : Unpacked x u) (hv : Unpacked y v) :
    UnpackedFloat.compare u v =
      if u.isNaN || v.isNaN then none else some (compare (signedUnits x) (signedUnits y)) := by
  have htop : 0 < units ⟨2 ^ 52, 972⟩ := units_pos (by decide)
  cases hu with
  | notANumber => rfl
  | infinity hx =>
    rw [signedUnits_eq hx]
    cases hv with
    | notANumber => cases sign x <;> rfl
    | infinity hy =>
      rw [signedUnits_eq hy, compare_apply _ _ htop htop, Std.compare_self]
      cases sign x <;> cases sign y <;> rfl
    | zero hy =>
      rw [signedUnits_eq_zero hy, compare_apply_zero _ htop]
      cases sign x <;> rfl
    | finite hpos hy hlt =>
      rw [signedUnits_eq hy, compare_apply _ _ htop (units_pos hpos),
        Std.compare_eq_gt.mpr (units_lt_infinity (canonical_of_eq hy) hlt)]
      cases sign x <;> cases sign y <;> rfl
  | zero hx =>
    rw [signedUnits_eq_zero hx]
    cases hv with
    | notANumber => rfl
    | infinity hy =>
      rw [signedUnits_eq hy, compare_zero_apply _ htop]
      cases sign y <;> rfl
    | zero hy =>
      rw [signedUnits_eq_zero hy]
      rfl
    | finite hpos hy hlt =>
      rw [signedUnits_eq hy, compare_zero_apply _ (units_pos hpos)]
      cases sign y <;> rfl
  | finite hxpos hx hxlt =>
    have hc := canonical_of_eq hx
    rw [signedUnits_eq hx]
    cases hv with
    | notANumber => cases sign x <;> rfl
    | infinity hy =>
      rw [signedUnits_eq hy, compare_apply _ _ (units_pos hxpos) htop,
        Std.compare_eq_lt.mpr (units_lt_infinity hc hxlt)]
      cases sign x <;> cases sign y <;> rfl
    | zero hy =>
      rw [signedUnits_eq_zero hy, compare_apply_zero _ (units_pos hxpos)]
      cases sign x <;> rfl
    | finite hpos hy hlt =>
      rw [signedUnits_eq hy, compare_apply _ _ (units_pos hxpos) (units_pos hpos),
        hc.compare_units (canonical_of_eq hy)]
      cases sign x <;> cases sign y <;> rfl

theorem compare_unpack_eq_some_iff {o : Ordering} :
    UnpackedFloat.compare x.toModel.unpack y.toModel.unpack = some o ↔
      (x.isNaN = false ∧ y.isNaN = false) ∧ compare (signedUnits x) (signedUnits y) = o := by
  have h := (unpacked x).compare_eq (unpacked y)
  change _ = if x.isNaN || y.isNaN then _ else _ at h
  rw [h]
  cases x.isNaN <;> cases y.isNaN <;> simp

theorem lt_iff :
    x < y ↔ (x.isNaN = false ∧ y.isNaN = false) ∧ signedUnits x < signedUnits y := by
  have hlt : x < y ↔
      (UnpackedFloat.compare x.toModel.unpack y.toModel.unpack == some .lt) = true :=
    decide_eq_true_iff
  rw [hlt, beq_iff_eq, compare_unpack_eq_some_iff, Std.compare_eq_lt]

theorem beq_iff :
    (x == y) = true ↔ (x.isNaN = false ∧ y.isNaN = false) ∧ signedUnits x = signedUnits y := by
  have hbeq : (x == y) =
      (UnpackedFloat.compare x.toModel.unpack y.toModel.unpack == some .eq) := rfl
  rw [hbeq, beq_iff_eq, compare_unpack_eq_some_iff, Std.compare_eq_iff_eq]

end AccessControl.Dyadic
