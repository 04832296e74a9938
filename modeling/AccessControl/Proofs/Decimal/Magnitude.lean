import AccessControl.Proofs.Decimal.Fields
import AccessControl.Word

/-!
Integers as doubles. Rounding adds a bit to a mantissa at most, so the exponents stay far below the
greatest one on the way from an integer of a machine word to its double, which is therefore finite.
-/

open Float.Model Float.Model.UnpackedFloat

namespace AccessControl.Dyadic

/-- An unpacked double is a number with a mantissa of so many bits at most and an exponent that is
no greater than the bound. -/
inductive Within (bits : Nat) (bound : Int) : UnpackedFloat → Prop
  | zero (s : Sign) : Within bits bound (.zero s)
  | finite (s : Sign) (m : Nat) (e : Int) (hpos : 0 < m) (hm : m < 2 ^ bits) (he : e ≤ bound) :
      Within bits bound (.finite s m e hpos)

variable {bits k : Nat} {bound l : Int} {u : UnpackedFloat}

theorem mantissa_shiftRight_le (em : ExtendedMantissa) (n : Nat) :
    (em >>> n).mantissa ≤ em.mantissa := by
  induction n with
  | zero => exact Nat.le_refl _
  | succ n ih => exact Nat.le_trans (Nat.div_le_self _ _) ih

theorem roundedMantissa_le (em : ExtendedMantissa) : em.roundedMantissa ≤ em.mantissa + 1 := by
  obtain ⟨m, r, s⟩ := em
  cases r <;> cases s <;>
    simp only [ExtendedMantissa.roundedMantissa, ExtendedMantissa.accuracy,
      Accuracy.roundToNearestEven] <;> omega

theorem mantissa_ofMantissaAndAccuracy (m : Nat) (a : Accuracy) :
    (ExtendedMantissa.ofMantissaAndAccuracy m a).mantissa = m := by
  rcases a with _ | _ | _ | _ <;> rfl

theorem mantissa_shiftToTargetExponent_le (m : Nat) (e : Int) (a : Accuracy) :
    (shiftToTargetExponent .binary64 m e a).1.mantissa ≤ m := by
  have h := mantissa_shiftRight_le (.ofMantissaAndAccuracy m a)
  rw [mantissa_ofMantissaAndAccuracy] at h
  exact h _

/-- The exponent after a shift, for a mantissa of so many bits at most. -/
theorem exponent_shiftToTargetExponent_le {m : Nat} {e : Int} (a : Accuracy) (hm : m < 2 ^ k)
    (hk : 0 < k) (hle : e ≤ l) (hsmall : -1074 ≤ l) :
    (shiftToTargetExponent .binary64 m e a).2 ≤ l + k := by
  have hlog : m.log2 < k := by
    by_cases hzero : m = 0
    · rw [hzero, Nat.log2_zero]; exact hk
    · exact (Nat.log2_lt hzero).mpr hm
  change e + ((Format.binary64.targetExponent (m.log2 + 1 + e) - e).toNat : Int) ≤ _
  have htarget : Format.binary64.targetExponent (m.log2 + 1 + e) =
      max (m.log2 + 1 + e - 53) (-1074) := rfl
  rw [htarget]
  omega

/-- Rounding adds a bit at most. -/
theorem within_roundWithAccuracy {m : Nat} {e : Int} (s : Sign) (a : Accuracy) (hm : m < 2 ^ k)
    (hk : 0 < k) (hle : e ≤ l) (hsmall : -1074 ≤ l) :
    Within (k + 1) (l + k + (k + 1 : Nat)) (roundWithAccuracy .binary64 s m e a) := by
  have hexponent := exponent_shiftToTargetExponent_le a hm hk hle hsmall
  have hmantissa := mantissa_shiftToTargetExponent_le m e a
  rw [roundWithAccuracy]
  generalize shiftToTargetExponent .binary64 m e a = shifted at *
  have hrounded := roundedMantissa_le shifted.1
  have hwide : shifted.1.roundedMantissa < 2 ^ (k + 1) := by
    rw [Nat.pow_succ]
    omega
  have hexponent' :=
    exponent_shiftToTargetExponent_le .exact hwide (Nat.succ_pos k) hexponent (by omega)
  have hmantissa' :=
    mantissa_shiftToTargetExponent_le shifted.1.roundedMantissa shifted.2 .exact
  dsimp only
  generalize shiftToTargetExponent .binary64 shifted.1.roundedMantissa shifted.2 .exact = final at *
  by_cases hzero : final.1.mantissa = 0
  · rw [dif_pos hzero]
    exact .zero s
  · rw [dif_neg hzero]
    exact .finite s _ _ _ (Nat.lt_of_le_of_lt hmantissa' hwide) hexponent'

theorem Within.mono {bits' : Nat} {bound' : Int} (h : Within bits bound u) (hbits : bits ≤ bits')
    (hbound : bound ≤ bound') : Within bits' bound' u := by
  cases h with
  | zero s => exact .zero s
  | finite s m e hpos hm he =>
    exact .finite s m e hpos (Nat.lt_of_lt_of_le hm (Nat.pow_le_pow_right (by decide) hbits))
      (Int.le_trans he hbound)

theorem Within.neg (h : Within bits bound u) : Within bits bound u.neg := by
  cases h with
  | zero s => exact .zero _
  | finite s m e hpos hm he => exact .finite _ m e hpos hm he

/-- The exponent bits of a double stand for no exponent beyond the bound. -/
def AtMost (bound : Int) (x : Float) : Prop :=
  (power x).toNat ≤ (bound + 1075).toNat

variable {x : Float} {n : Nat}

theorem atMost_pack (h : Within bits bound u) (hle : bound ≤ 971) :
    AtMost bound (.ofModel (.pack u)) := by
  cases h with
  | zero s =>
    change (unpackExponent (packComponents .binary64 s 0 0)).toNat ≤ _
    rw [unpackExponent_packComponents]
    exact Nat.zero_le _
  | finite s m e hpos hm he =>
    change (unpackExponent (if 2048 ≤ (e + 1023 + 52).toNat + 1 then packedInfinity .binary64 s
      else if m.log2 + 1 = 53 then
        packComponents .binary64 s (.ofNat _ (e + 1023 + 52).toNat) (.ofNat _ m)
      else packComponents .binary64 s 0 (.ofNat _ m))).toNat ≤ _
    rw [if_neg (by omega)]
    split
    · rw [unpackExponent_packComponents, BitVec.toNat_ofNat]
      exact Nat.le_trans (Nat.mod_le _ _) (by omega)
    · rw [unpackExponent_packComponents]
      exact Nat.zero_le _

theorem AtMost.isFinite (h : AtMost bound x) (hle : bound ≤ 971) : isFinite x = true := by
  rw [isFinite_iff]
  intro hones
  rw [AtMost, hones] at h
  change 2047 ≤ _ at h
  omega

theorem AtMost.exponent_ofFloat_le (h : AtMost bound x) (hge : -1074 ≤ bound) :
    (ofFloat x).exponent ≤ bound := by
  rw [AtMost] at h
  by_cases hzero : power x = 0
  · rw [ofFloat_of_power_eq_zero hzero]
    exact hge
  · rw [ofFloat_of_power_ne_zero hzero]
    dsimp only
    omega

theorem AtMost.within_unpack (h : AtMost bound x) (hge : -1074 ≤ bound) (hle : bound ≤ 971) :
    Within 53 bound x.toModel.unpack := by
  have hexponent := h.exponent_ofFloat_le hge
  have hcanonical := canonical_ofFloat x
  have hunpacked := unpacked x
  generalize x.toModel.unpack = u at hunpacked
  cases hunpacked with
  | infinity heq =>
    rw [heq] at hexponent
    dsimp only at hexponent
    omega
  | notANumber hones => exact absurd hones ((isFinite_iff x).mp (h.isFinite hle))
  | zero heq => exact .zero _
  | finite hpos heq hlt =>
    rw [heq] at hexponent hcanonical
    exact .finite _ _ _ hpos hcanonical.mantissa_lt hexponent

theorem AtMost.neg (h : AtMost bound x) (hge : -1074 ≤ bound) (hle : bound ≤ 971) :
    AtMost bound (-x) :=
  atMost_pack (h.within_unpack hge hle).neg hle

/-- An integer is rounded after its mantissa was moved up to 53 bits. -/
theorem within_ofNat (hn : n < 2 ^ 64) : Within 117 233 (UnpackedFloat.ofNat .binary64 n) := by
  rw [UnpackedFloat.ofNat, UnpackedFloat.ofInt, UnpackedFloat.normalize]
  split
  · next h => rw [Std.compare_eq_lt] at h; omega
  · exact .zero _
  · rw [Int.toNat_natCast]
    have htarget : Format.binary64.targetExponent (totalExponent n 0) =
        max ((n.log2 : Int) + 1 + 0 - 53) (-1074) := rfl
    rw [UnpackedFloat.round, htarget, decreaseExponent, Nat.shiftLeft_eq]
    have hwide : n * 2 ^ ((0 : Int) - max ((n.log2 : Int) + 1 + 0 - 53) (-1074)).toNat <
        2 ^ (64 + 52) := by
      rw [Nat.pow_add]
      exact Nat.mul_lt_mul_of_lt_of_le hn (Nat.pow_le_pow_right (by decide) (by omega))
        (Nat.two_pow_pos 52)
    exact within_roundWithAccuracy (l := 0) .positive .exact hwide (by omega) (by omega) (by omega)

/-- One, the power of ten that a small integer is scaled by. -/
theorem unpack_one : (Float.ofBits 0x3FF0000000000000).toModel.unpack =
    .finite .positive (2 ^ 52) (-52) (by decide) :=
  rfl

theorem within_mul_one (h : Within 53 bound u) (hge : -1022 ≤ bound) :
    Within 106 (bound + 159)
      (UnpackedFloat.mul .binary64 u (.finite .positive (2 ^ 52) (-52) (by decide))) := by
  cases h with
  | zero s => exact .zero _
  | finite s m e hpos hm he =>
    have hwide : m * 2 ^ 52 < 2 ^ 105 := by
      rw [show 2 ^ 105 = 2 ^ 53 * 2 ^ 52 by decide]
      exact Nat.mul_lt_mul_of_pos_right hm (by decide)
    exact (within_roundWithAccuracy (l := bound - 52) _ .exact hwide (by decide) (by omega)
      (by omega)).mono (by omega) (by omega)

/-- A large integer is rounded as it stands, with 53 more bits below its mantissa. -/
theorem ofScientific_eq (hpos : n ≠ 0) : UnpackedFloat.ofScientific .binary64 n 0 =
    roundWithAccuracy .binary64 .positive (n <<< 53 * 1) (-53) .exact := by
  have hlow : ¬ (0 : Int) < -((2 ^ Format.binary64.exponentBits : Int) + n.log2) := by
    change ¬ (0 : Int) < -(2048 + n.log2)
    omega
  rw [UnpackedFloat.ofScientific, dif_neg hpos, if_neg (by decide), if_neg hlow,
    if_pos (Int.le_refl 0)]
  rfl

theorem atMost_ofNat (hn : n < 2 ^ 64) : AtMost 392 (Float.ofNat n) := by
  change AtMost 392 (Float.ofScientific n false 0)
  rw [Float.ofScientific]
  split
  · -- A small integer is rounded and then multiplied by one, which rounds it again.
    have hrounded := atMost_pack (within_ofNat hn) (by decide)
    have hscaled := within_mul_one (hrounded.within_unpack (by decide) (by decide)) (by decide)
    have hword : n.toUInt64.toNat = n := Nat.mod_eq_of_lt hn
    rw [← unpack_one, ← hword] at hscaled
    exact atMost_pack hscaled (by decide)
  · next hslow =>
    have hpos : n ≠ 0 := by
      rintro rfl
      exact hslow (by decide)
    have hwide : n <<< 53 * 1 < 2 ^ 117 := by
      rw [Nat.shiftLeft_eq, Nat.mul_one]
      exact Nat.mul_lt_mul_of_pos_right hn (Nat.two_pow_pos 53)
    change AtMost 392 (.ofModel (.pack (UnpackedFloat.ofScientific .binary64 n 0)))
    rw [ofScientific_eq hpos]
    exact atMost_pack ((within_roundWithAccuracy (l := -53) .positive .exact hwide
      (by decide) (by decide) (by decide)).mono (Nat.le_refl _) (by decide)) (by decide)

/-- Integers of 64 bits are finite as doubles, below zero too. -/
theorem isFinite_ofInt {n : Int} (hlower : -(Word.bound 64 : Int) < n)
    (hupper : n < Word.bound 64) : isFinite (Float.ofInt n) = true := by
  have hbound : Word.bound 64 = 2 ^ 64 := rfl
  cases n with
  | ofNat n => exact (atMost_ofNat (Int.ofNat_lt.mp hupper)).isFinite (by decide)
  | negSucc n =>
    have h : n + 1 < 2 ^ 64 := by omega
    exact ((atMost_ofNat h).neg (by decide) (by decide)).isFinite (by decide)

end AccessControl.Dyadic
