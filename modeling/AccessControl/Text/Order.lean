/-!
The order of texts: by code point, character by character, a shorter text before its continuations.
It is a strict order in which two texts are equal or one comes first.
-/

namespace AccessControl.Text

def lessChars : List Char → List Char → Bool
  | _, [] => false
  | [], _ :: _ => true
  | a :: as, b :: bs => decide (a.toNat < b.toNat) || (a == b && lessChars as bs)

/-- The first text comes strictly before the second. -/
def less (a b : String) : Bool :=
  lessChars a.toList b.toList

/-- The first text does not come after the second. -/
def lessOrEqual (a b : String) : Bool :=
  !less b a

/-- The second text starts with the first. -/
def startsWith (s start : String) : Bool :=
  start.toList.isPrefixOf s.toList

def endsWith (s ending : String) : Bool :=
  ending.toList.isSuffixOf s.toList

/-- The needle starts at some position. -/
def containsChars (needle : List Char) : List Char → Bool
  | [] => needle.isEmpty
  | c :: cs => needle.isPrefixOf (c :: cs) || containsChars needle cs

/-- The needle occurs somewhere in the text; the empty needle occurs in every text. -/
def contains (s needle : String) : Bool :=
  containsChars needle.toList s.toList

theorem lessChars_irrefl (cs : List Char) : lessChars cs cs = false := by
  induction cs with
  | nil => rfl
  | cons c cs ih => simp [lessChars, ih]

theorem lessChars_trans {as bs cs : List Char} (h₁ : lessChars as bs = true)
    (h₂ : lessChars bs cs = true) : lessChars as cs = true := by
  induction bs generalizing as cs with
  | nil => simp [lessChars] at h₁
  | cons b bs ih =>
    cases cs with
    | nil => simp [lessChars] at h₂
    | cons c cs =>
      cases as with
      | nil => rfl
      | cons a as =>
        simp only [lessChars, Bool.or_eq_true, decide_eq_true_eq, Bool.and_eq_true, beq_iff_eq] at *
        rcases h₁ with h₁ | ⟨rfl, h₁⟩
        · rcases h₂ with h₂ | ⟨rfl, _⟩
          · exact .inl (Nat.lt_trans h₁ h₂)
          · exact .inl h₁
        · rcases h₂ with h₂ | ⟨rfl, h₂⟩
          · exact .inl h₂
          · exact .inr ⟨rfl, ih h₁ h₂⟩

theorem eq_of_not_lessChars {as bs : List Char} (h₁ : lessChars as bs = false)
    (h₂ : lessChars bs as = false) : as = bs := by
  induction as generalizing bs with
  | nil =>
    cases bs with
    | nil => rfl
    | cons b bs => simp [lessChars] at h₁
  | cons a as ih =>
    cases bs with
    | nil => simp [lessChars] at h₂
    | cons b bs =>
      simp only [lessChars, Bool.or_eq_false_iff, decide_eq_false_iff_not, Bool.and_eq_false_iff,
        Nat.not_lt] at h₁ h₂
      have hab : a = b := Char.toNat_inj.mp (Nat.le_antisymm h₂.1 h₁.1)
      subst hab
      simp only [beq_self_eq_true, Bool.true_eq_false, false_or] at h₁ h₂
      rw [ih h₁.2 h₂.2]

theorem less_irrefl (a : String) : less a a = false :=
  lessChars_irrefl _

theorem less_trans {a b c : String} (h₁ : less a b = true) (h₂ : less b c = true) :
    less a c = true :=
  lessChars_trans h₁ h₂

theorem eq_of_not_less {a b : String} (h₁ : less a b = false) (h₂ : less b a = false) : a = b :=
  String.toList_inj.mp (eq_of_not_lessChars h₁ h₂)

theorem less_asymm {a b : String} (h : less a b = true) : less b a = false := by
  cases hb : less b a with
  | false => rfl
  | true => rw [← less_irrefl a, less_trans h hb]

theorem ne_of_less {a b : String} (h : less a b = true) : a ≠ b := by
  rintro rfl
  simp [less_irrefl] at h

theorem lessOrEqual_refl (a : String) : lessOrEqual a a = true := by
  rw [lessOrEqual, less_irrefl, Bool.not_false]

theorem eq_of_lessOrEqual {a b : String} (h₁ : lessOrEqual a b = true)
    (h₂ : lessOrEqual b a = true) : a = b := by
  rw [lessOrEqual, Bool.not_eq_true'] at h₁ h₂
  exact eq_of_not_less h₂ h₁

theorem lessOrEqual_trans {a b c : String} (h₁ : lessOrEqual a b = true)
    (h₂ : lessOrEqual b c = true) : lessOrEqual a c = true := by
  simp only [lessOrEqual, Bool.not_eq_true'] at *
  cases hab : less a b with
  | false => rwa [eq_of_not_less hab h₁]
  | true =>
    cases hca : less c a with
    | false => rfl
    | true => rw [← h₂, less_trans hca hab]

theorem lessOrEqual_total (a b : String) : (lessOrEqual a b || lessOrEqual b a) = true := by
  cases hba : less b a with
  | false => simp [lessOrEqual, hba]
  | true => simp [lessOrEqual, less_asymm hba]

theorem less_of_lessOrEqual {a b : String} (h : lessOrEqual a b = true) (hne : a ≠ b) :
    less a b = true := by
  cases hab : less a b with
  | true => rfl
  | false => exact absurd (eq_of_not_less hab (by simpa [lessOrEqual] using h)) hne

end AccessControl.Text
