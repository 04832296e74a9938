import AccessControl.Decimal.Basic
import Mathlib.Algebra.Group.Nat.Defs

/-!
The fields of a double: sign, exponent and fraction. The magnitude that is read from them is the one
that the double is unpacked to, and it is finite unless all exponent bits are set.
-/

open Float.Model Float.Model.UnpackedFloat

namespace AccessControl.Dyadic

/-- The exponent bits of a double. -/
def power (x : Float) : BitVec 11 :=
  @unpackExponent .binary64 x.toBits.toBitVec

/-- The fraction bits of a double. -/
def fraction (x : Float) : BitVec 52 :=
  @unpackMantissa .binary64 x.toBits.toBitVec

/-- The sign bit of a double. -/
def signBit (x : Float) : BitVec 1 :=
  @unpackSign .binary64 x.toBits.toBitVec

/-- The sign of a double. -/
def sign (x : Float) : Sign :=
  if isNegative x then .negative else .positive

theorem toNat_power (x : Float) : ((x.toBits >>> 52) &&& 0x7FF).toNat = (power x).toNat := by
  change x.toBits.toNat >>> 52 &&& 2 ^ 11 - 1 = x.toBits.toNat >>> 52 % 2 ^ 11
  exact Nat.and_two_pow_sub_one_eq_mod _ 11

theorem toNat_fraction (x : Float) :
    (x.toBits &&& 0xFFFFFFFFFFFFF).toNat = (fraction x).toNat := by
  change x.toBits.toNat &&& 2 ^ 52 - 1 = x.toBits.toNat % 2 ^ 52
  exact Nat.and_two_pow_sub_one_eq_mod _ 52

theorem ofBitVec_signBit (x : Float) : Sign.ofBitVec (signBit x) = sign x := by
  have hlt : x.toBits.toNat >>> 63 < 2 := by
    rw [Nat.shiftRight_eq_div_pow]
    have := x.toBits.toNat_lt
    omega
  have hbit : (signBit x).toNat = x.toBits.toNat >>> 63 := Nat.mod_eq_of_lt hlt
  have hnegative : isNegative x = true ↔ x.toBits.toNat >>> 63 = 1 := by
    rw [isNegative, beq_iff_eq, ← UInt64.toNat_inj, UInt64.toNat_shiftRight]
    rfl
  change (if signBit x = 0 then Sign.positive else .negative) = _
  by_cases h : x.toBits.toNat >>> 63 = 1
  · have hone : signBit x = 1 := BitVec.eq_of_toNat_eq (hbit.trans h)
    rw [sign, if_pos (hnegative.mpr h), hone]
    rfl
  · have hzero : signBit x = 0 := BitVec.eq_of_toNat_eq (by rw [hbit]; change _ = 0; omega)
    rw [sign, if_neg (mt hnegative.mp h), hzero]
    rfl

/-- All exponent bits are set in the infinities and NaN. -/
theorem isFinite_iff (x : Float) : isFinite x = true ↔ power x ≠ -1 := by
  rw [isFinite, bne_iff_ne, Ne, ← UInt64.toNat_inj, toNat_power, Ne, ← BitVec.toNat_inj]
  rfl

theorem ofFloat_of_power_eq_zero {x : Float} (h : power x = 0) :
    ofFloat x = ⟨(fraction x).toNat, -1074⟩ := by
  have hp : ((x.toBits >>> 52) &&& 0x7FF).toNat = 0 := by rw [toNat_power, h]; rfl
  simp only [ofFloat, hp, if_true, toNat_fraction]

theorem ofFloat_of_power_ne_zero {x : Float} (h : power x ≠ 0) :
    ofFloat x = ⟨2 ^ 52 + (fraction x).toNat, (power x).toNat - 1075⟩ := by
  have hp : ((x.toBits >>> 52) &&& 0x7FF).toNat ≠ 0 := by
    rw [toNat_power]
    exact fun hzero => h (BitVec.eq_of_toNat_eq hzero)
  rw [ofFloat, if_neg hp, toNat_fraction, toNat_power]
  exact congrArg (Dyadic.mk · _) (Nat.add_comm _ _)

/-- A magnitude as the fields of a double give it: with a full mantissa, but for the least
exponent. -/
structure Canonical (d : Dyadic) : Prop where
  mantissa_lt : d.mantissa < 2 ^ 53
  exponent_ge : -1074 ≤ d.exponent
  le_mantissa : -1074 < d.exponent → 2 ^ 52 ≤ d.mantissa

theorem canonical_ofFloat (x : Float) : (ofFloat x).Canonical := by
  have hfraction := (fraction x).isLt
  by_cases h : power x = 0
  · rw [ofFloat_of_power_eq_zero h]
    exact ⟨by dsimp only; omega, Int.le_refl _, fun hlt => absurd hlt (Int.lt_irrefl _)⟩
  · rw [ofFloat_of_power_ne_zero h]
    have hpos : (power x).toNat ≠ 0 := fun hzero => h (BitVec.eq_of_toNat_eq hzero)
    exact ⟨by dsimp only; omega, by dsimp only; omega, fun _ => Nat.le_add_right _ _⟩

/-- What a double is unpacked to, by the magnitude that its fields stand for. -/
inductive Unpacked (x : Float) : UnpackedFloat → Prop
  | infinity (h : ofFloat x = ⟨2 ^ 52, 972⟩) : Unpacked x (.infinity (sign x))
  | notANumber (h : power x = -1) : Unpacked x .notANumber
  | zero (h : ofFloat x = ⟨0, -1074⟩) : Unpacked x (.zero (sign x))
  | finite {m : Nat} {e : Int} (hpos : 0 < m) (h : ofFloat x = ⟨m, e⟩) (hlt : e < 972) :
      Unpacked x (.finite (sign x) m e hpos)

theorem toNat_append_one (f : BitVec 52) : (1#1 ++ f).toNat = 2 ^ 52 + f.toNat := by
  rw [BitVec.toNat_append, Nat.shiftLeft_eq, Nat.mul_comm, ← Nat.two_pow_add_eq_or_of_lt f.isLt]
  rfl

theorem unpacked (x : Float) : Unpacked x x.toModel.unpack := by
  have hlt : (power x).toNat < 2 ^ 11 := (power x).isLt
  change Unpacked x
    (if power x = -1 then
      if fraction x = 0 then .infinity (.ofBitVec (signBit x)) else .notANumber
    else if power x = 0 then
      if _h : fraction x = 0 then .zero (.ofBitVec (signBit x))
      else .finite (.ofBitVec (signBit x)) (fraction x).toNat ((power x).toNat - 1075 + 1) _
    else .finite (.ofBitVec (signBit x)) (1#1 ++ fraction x).toNat ((power x).toNat - 1075) _)
  rw [ofBitVec_signBit]
  by_cases hones : power x = -1
  · rw [if_pos hones]
    by_cases hzero : fraction x = 0
    · rw [if_pos hzero]
      refine .infinity ?_
      rw [ofFloat_of_power_ne_zero (by rw [hones]; decide), hones, hzero]
      rfl
    · rw [if_neg hzero]
      exact .notANumber hones
  · rw [if_neg hones]
    by_cases hsmall : power x = 0
    · rw [if_pos hsmall]
      by_cases hzero : fraction x = 0
      · rw [dif_pos hzero]
        refine .zero ?_
        rw [ofFloat_of_power_eq_zero hsmall, hzero]
        rfl
      · rw [dif_neg hzero]
        refine .finite _ ?_ (by rw [hsmall]; decide)
        rw [ofFloat_of_power_eq_zero hsmall, hsmall]
        rfl
    · have htop : (power x).toNat ≠ 2047 := fun htop => hones (BitVec.eq_of_toNat_eq htop)
      rw [if_neg hsmall]
      refine .finite _ ?_ (by omega)
      rw [ofFloat_of_power_ne_zero hsmall, toNat_append_one]

end AccessControl.Dyadic
