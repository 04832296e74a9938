import AccessControl.Json.Lexeme
import AccessControl.Json.Writer
import AccessControl.Proofs.Json.Structure
import Mathlib.Data.List.TakeWhile

/-!
The texts of numbers. An integer that fits its word is read back from its text. A double is written
with a point or an exponent, so its text stands for a double, though not always for the same one.
-/

namespace AccessControl.Json

/-- What the text of a number is read as. -/
def Number.literal? (n : Number) : Option NumberLiteral :=
  NumberLiteral.ofChars? n.write.toList

/-- The number that the text of a number stands for. -/
def Number.reread? (n : Number) : Option Number :=
  n.literal?.bind NumberLiteral.value?

theorem isDigit_of_mem_toDigits {n : Nat} {c : Char} (h : c ∈ Nat.toDigits 10 n) :
    c.isDigit = true :=
  Nat.isDigit_of_mem_toDigits (by decide) (by decide) h

theorem digitsValue_toDigits (n : Nat) : digitsValue (Nat.toDigits 10 n) = n := by
  have h := Nat.ofDigitChars_toDigits (b := 10) (n := n) (by decide) (by decide)
  rwa [Nat.ofDigitChars_eq_foldl] at h

/-- Only zero is written with a zero in front. -/
theorem eq_zero_of_toDigits_eq_cons {n : Nat} {cs : List Char}
    (h : Nat.toDigits 10 n = '0' :: cs) : n = 0 := by
  induction n using Nat.strongRecOn generalizing cs with
  | _ n ih =>
    by_cases hn : n < 10
    · have hchar : ∀ m < 10, Nat.digitChar m = '0' → m = 0 := by decide
      rw [Nat.toDigits_of_lt_base hn] at h
      exact hchar n hn (List.cons.inj h).1
    · rw [Nat.toDigits_of_base_le (by decide) (by omega)] at h
      cases hfront : Nat.toDigits 10 (n / 10) with
      | nil => exact absurd hfront Nat.toDigits_ne_nil
      | cons d ds =>
        rw [hfront] at h
        obtain ⟨rfl, -⟩ := List.cons.inj h
        have := ih (n / 10) (by omega) hfront
        omega

theorem badWhole_toDigits (n : Nat) : badWhole (Nat.toDigits 10 n) = false := by
  cases hdigits : Nat.toDigits 10 n with
  | nil => exact absurd hdigits Nat.toDigits_ne_nil
  | cons c cs =>
    by_cases hc : c = '0'
    · subst hc
      have hn := eq_zero_of_toDigits_eq_cons hdigits
      subst hn
      obtain ⟨-, rfl⟩ := List.cons.inj ((Nat.toDigits_zero 10).symm.trans hdigits)
      rfl
    · cases cs <;> simp [badWhole, hc]

/-- Digits alone, after a minus or not, are the literal of an integer. -/
theorem NumberLiteral.ofChars?_digits {ds : List Char} (h : ∀ c ∈ ds, c.isDigit = true)
    (hwhole : badWhole ds = false) :
    ofChars? ds = some ⟨false, ds, [], none⟩ ∧
      ofChars? ('-' :: ds) = some ⟨true, ds, [], none⟩ := by
  have htake := List.takeWhile_eq_self_iff.mpr h
  have hdrop := List.dropWhile_eq_nil_iff.mpr h
  constructor
  · cases ds with
    | nil => cases hwhole
    | cons d ds =>
      have hminus : d ≠ '-' := by
        rintro rfl
        exact absurd (h '-' List.mem_cons_self) (by decide)
      simp [ofChars?, htake, hdrop, hwhole, hminus, powerPart?]
  · simp [ofChars?, htake, hdrop, hwhole, powerPart?]

theorem NumberLiteral.value?_plain {ds : List Char} (h : digitsValue ds < Word.bound 64) :
    value? ⟨false, ds, [], none⟩ = some (.int (digitsValue ds)) := by
  simp [value?, h]

theorem NumberLiteral.value?_negative {ds : List Char} (hpos : 0 < digitsValue ds)
    (h : digitsValue ds ≤ Word.bound 63) :
    value? ⟨true, ds, [], none⟩ = some (.int (-(digitsValue ds : Int))) := by
  simp [value?, hpos, h]

/-- An integer that fits a 64-bit word, signed or not, is read back. -/
theorem Number.reread?_int {z : Int} (hlow : -(Word.bound 63 : Int) ≤ z)
    (hhigh : z < Word.bound 64) : reread? (.int z) = some (.int z) := by
  have hdigits := digitsValue_toDigits z.natAbs
  obtain ⟨hplus, hminus⟩ := NumberLiteral.ofChars?_digits
    (fun _ => isDigit_of_mem_toDigits) (badWhole_toDigits z.natAbs)
  by_cases hz : z < 0
  · have hliteral : literal? (.int z) = some ⟨true, Nat.toDigits 10 z.natAbs, [], none⟩ := by
      simpa [literal?, write, hz, Decimal.digitText] using hminus
    have hvalue : -(z.natAbs : Int) = z := by omega
    rw [reread?, hliteral, Option.bind_some,
      NumberLiteral.value?_negative (by omega) (by omega), hdigits, hvalue]
  · have hliteral : literal? (.int z) = some ⟨false, Nat.toDigits 10 z.natAbs, [], none⟩ := by
      simpa [literal?, write, hz, Decimal.digitText] using hplus
    have hvalue : (z.natAbs : Int) = z := by omega
    rw [reread?, hliteral, Option.bind_some, NumberLiteral.value?_plain (by omega), hdigits,
      hvalue]

/-- An integer of a smaller word comes back from its text. -/
theorem Number.reread?_of_fitsSigned {z : Int} (h : Word.fitsSigned 31 z = true) :
    reread? (.int z) = some (.int z) := by
  have hlow : Word.bound 31 ≤ Word.bound 63 := by decide
  have hhigh : Word.bound 31 ≤ Word.bound 64 := by decide
  simp only [Word.fitsSigned, Bool.and_eq_true, decide_eq_true_iff] at h
  exact reread?_int (by omega) (by omega)

theorem Number.reread?_of_lt {n : Nat} (h : n < Word.bound 32) :
    reread? (.int n) = some (.int n) := by
  have hhigh : Word.bound 32 ≤ Word.bound 64 := by decide
  exact reread?_int (by omega) (by omega)

/-- The text of a magnitude that is not an integer's: digits, then a point or an exponent. -/
def Marked (cs : List Char) : Prop :=
  ∃ whole mark rest, cs = whole ++ mark :: rest ∧ whole ≠ [] ∧ (∀ c ∈ whole, c.isDigit = true) ∧
    (mark = '.' ∨ mark = 'e') ∧ ∀ c ∈ rest, isNumberChar c = true

theorem isNumberChar_of_isDigit {c : Char} (h : c.isDigit = true) : isNumberChar c = true := by
  simp [isNumberChar, h]

theorem marked_positional {ds : List Char} (hne : ds ≠ []) (hdigits : ∀ c ∈ ds, c.isDigit = true)
    (exponent : Int) :
    Marked (Decimal.writePositional .json (String.ofList ds) exponent).toList := by
  by_cases hexponent : 0 ≤ exponent
  · refine ⟨ds ++ List.replicate exponent.natAbs '0', '.', ['0'], ?_, by simp [hne], ?_, .inl rfl,
      List.forall_mem_singleton.mpr rfl⟩
    · simp [Decimal.writePositional, hexponent, Decimal.Layout.json]
    · intro c hc
      rcases List.mem_append.mp hc with hc | hc
      · exact hdigits c hc
      · rw [List.eq_of_mem_replicate hc]
        decide
  · by_cases hplaces : exponent.natAbs < ds.length
    · refine ⟨ds.take (ds.length - exponent.natAbs), '.', ds.drop (ds.length - exponent.natAbs),
        ?_, ?_, fun c hc => hdigits c (List.mem_of_mem_take hc), .inl rfl,
        fun c hc => isNumberChar_of_isDigit (hdigits c (List.mem_of_mem_drop hc))⟩
      · simp [Decimal.writePositional, hexponent, hplaces]
      · simp [hne]
        omega
    · refine ⟨['0'], '.', List.replicate (exponent.natAbs - ds.length) '0' ++ ds, ?_, by simp,
        List.forall_mem_singleton.mpr rfl, .inl rfl, ?_⟩
      · simp [Decimal.writePositional, hexponent, hplaces]
      · intro c hc
        rcases List.mem_append.mp hc with hc | hc
        · rw [List.eq_of_mem_replicate hc]
          decide
        · exact isNumberChar_of_isDigit (hdigits c hc)

theorem marked_scientific {ds : List Char} (hne : ds ≠ []) (hdigits : ∀ c ∈ ds, c.isDigit = true)
    (leading : Int) : Marked (Decimal.writeScientific (String.ofList ds) leading).toList := by
  obtain ⟨d, ds, rfl⟩ := List.exists_cons_of_ne_nil hne
  obtain ⟨hd, hds⟩ := List.forall_mem_cons.mp hdigits
  obtain ⟨power, hpower, hchars⟩ : ∃ power : List Char,
      (if leading < 0 then "-" else "+").toList ++ Nat.toDigits 10 leading.natAbs = power ∧
        ∀ c ∈ power, isNumberChar c = true := by
    refine ⟨_, rfl, ?_⟩
    intro c hc
    rcases List.mem_append.mp hc with hc | hc
    · split at hc <;> simp at hc <;> subst hc <;> decide
    · exact isNumberChar_of_isDigit (isDigit_of_mem_toDigits hc)
  cases ds with
  | nil =>
    refine ⟨[d], 'e', power, ?_, by simp, by simpa using hd, .inr rfl, hchars⟩
    simp [Decimal.writeScientific, Decimal.digitText, hpower]
  | cons f ds =>
    refine ⟨[d], '.', f :: ds ++ 'e' :: power, ?_, by simp, by simpa using hd, .inl rfl, ?_⟩
    · simp [Decimal.writeScientific, Decimal.digitText, hpower]
    · intro c hc
      rcases List.mem_append.mp hc with hc | hc
      · exact isNumberChar_of_isDigit (hds c hc)
      · rcases List.mem_cons.mp hc with rfl | hc
        · decide
        · exact hchars c hc

theorem marked_write (d : Decimal) : Marked (d.write .json).toList := by
  have hdigits : ∀ c ∈ Nat.toDigits 10 d.digits, c.isDigit = true :=
    fun _ => isDigit_of_mem_toDigits
  have hforms :
      d.write .json = Decimal.writePositional .json (Decimal.digitText d.digits) d.exponent ∨
      d.write .json = Decimal.writeScientific (Decimal.digitText d.digits)
        (d.exponent + (Decimal.digitText d.digits).length - 1) :=
    ite_eq_or_eq _ _ _
  rcases hforms with h | h
  · rw [h]
    exact marked_positional Nat.toDigits_ne_nil hdigits d.exponent
  · rw [h]
    exact marked_scientific Nat.toDigits_ne_nil hdigits _

theorem Marked.chars {cs : List Char} (h : Marked cs) : ∀ c ∈ cs, isNumberChar c = true := by
  obtain ⟨whole, mark, rest, rfl, -, hwhole, hmark, hrest⟩ := h
  intro c hc
  rcases List.mem_append.mp hc with hc | hc
  · exact isNumberChar_of_isDigit (hwhole c hc)
  · rcases List.mem_cons.mp hc with rfl | hc
    · rcases hmark with rfl | rfl <;> decide
    · exact hrest c hc

theorem Marked.exists_mark {cs : List Char} (h : Marked cs) : ∃ c ∈ cs, c = '.' ∨ c = 'e' := by
  obtain ⟨whole, mark, rest, rfl, -, -, hmark, -⟩ := h
  exact ⟨mark, by simp, hmark⟩

/-- The text of a number without its sign. -/
def Number.magnitude : Number → List Char
  | .int value => Nat.toDigits 10 value.natAbs
  | .float value => ((Decimal.shortest .toEven value).write .json).toList

theorem Number.write_toList {n : Number} (h : n.isFinite = true) :
    n.write.toList = n.magnitude ∨ n.write.toList = '-' :: n.magnitude := by
  cases n with
  | int z =>
    by_cases hz : z < 0 <;> simp [write, hz, magnitude, Decimal.digitText]
  | float x =>
    have hfinite : Dyadic.isFinite x = true := h
    cases hneg : Dyadic.isNegative x <;>
      simp [write, Decimal.writeFloat, hfinite, hneg, magnitude, Decimal.Layout.json]

theorem Number.magnitude_chars (n : Number) :
    ∃ c cs, n.magnitude = c :: cs ∧ c.isDigit = true ∧ ∀ d ∈ cs, isNumberChar d = true := by
  cases n with
  | int z =>
    obtain ⟨c, cs, hdigits⟩ :=
      List.exists_cons_of_ne_nil (Nat.toDigits_ne_nil (n := z.natAbs) (b := 10))
    have hall : ∀ d ∈ c :: cs, d.isDigit = true := hdigits ▸ fun _ => isDigit_of_mem_toDigits
    obtain ⟨hc, hcs⟩ := List.forall_mem_cons.mp hall
    exact ⟨c, cs, hdigits, hc, fun d hd => isNumberChar_of_isDigit (hcs d hd)⟩
  | float x =>
    have hmarked := marked_write (Decimal.shortest .toEven x)
    obtain ⟨whole, mark, rest, htext, hne, hwhole, -, -⟩ := id hmarked
    obtain ⟨c, cs, rfl⟩ := List.exists_cons_of_ne_nil hne
    refine ⟨c, cs ++ mark :: rest, htext, hwhole c List.mem_cons_self, ?_⟩
    intro d hd
    exact hmarked.chars d (htext ▸ List.mem_cons_of_mem c hd)

theorem powerPart?_eq_none {cs : List Char} (h : powerPart? cs = some none) : cs = [] := by
  cases cs with
  | nil => rfl
  | cons c cs =>
    simp only [powerPart?] at h
    split at h
    · split at h <;> split at h <;> simp at h
    · cases h

/-- A literal without decimals and without an exponent is digits and nothing else. -/
theorem NumberLiteral.plain_of_ofChars? {cs : List Char} {l : NumberLiteral}
    (h : ofChars? cs = some l) (hfraction : l.fraction = []) (hpower : l.power = none) :
    ∀ c ∈ cs, c = '-' ∨ c.isDigit = true := by
  unfold ofChars? at h
  split at h
  rename_i negative ds hsign
  have hcs : ∀ c ∈ cs, c = '-' ∨ c ∈ ds := by
    intro c hc
    split at hsign <;> simp_all
  have hds : ds.dropWhile Char.isDigit = [] := by
    simp only at h
    split at h
    · cases h
    · split at h
      · split at h
        · cases h
        · rename_i hne
          obtain ⟨power, -, h⟩ := Option.bind_eq_some_iff.mp h
          obtain rfl := Option.some.inj h
          exact absurd (List.isEmpty_iff.mpr hfraction) hne
      · obtain ⟨power, hnone, h⟩ := Option.bind_eq_some_iff.mp h
        obtain rfl := Option.some.inj h
        exact powerPart?_eq_none (hpower ▸ hnone)
  intro c hc
  exact (hcs c hc).imp_right (List.dropWhile_eq_nil_iff.mp hds c)

theorem NumberLiteral.value?_eq_int {l : NumberLiteral} {z : Int} (h : l.value? = some (.int z)) :
    l.fraction = [] ∧ l.power = none := by
  unfold value? at h
  simp only at h
  split at h
  · simp_all
  · split at h
    · simp_all
    · simp at h

/-- The text of a double is never read as an integer. -/
theorem Number.reread?_float {x : Float} {n : Number} (hx : Dyadic.isFinite x = true)
    (h : reread? (.float x) = some n) : ∃ y, n = .float y := by
  rcases n with z | y
  · obtain ⟨l, hliteral, hvalue⟩ := Option.bind_eq_some_iff.mp h
    obtain ⟨hfraction, hpower⟩ := NumberLiteral.value?_eq_int hvalue
    have hplain := NumberLiteral.plain_of_ofChars? hliteral hfraction hpower
    obtain ⟨c, hc, hmark⟩ := (marked_write (Decimal.shortest .toEven x)).exists_mark
    have hmem : c ∈ (write (.float x)).toList := by
      rcases write_toList (n := .float x) hx with htext | htext
      · exact htext ▸ hc
      · exact htext ▸ List.mem_cons_of_mem '-' hc
    rcases hmark with rfl | rfl
    · exact absurd (hplain '.' hmem) (by decide)
    · exact absurd (hplain 'e' hmem) (by decide)
  · exact ⟨y, rfl⟩

/-- A double whose text has a few decimals is read as its digits divided by a power of ten, which
rounds once more. -/
theorem Number.reread?_positional {x : Float} {text : String} {l : NumberLiteral}
    (htext : write (.float x) = text) (hl : NumberLiteral.ofChars? text.toList = some l)
    (hpositive : l.negative = false) (hfraction : l.fraction ≠ []) (hlow : l.decimal.exponent < 0)
    (hhigh : l.decimal.exponent.natAbs ≤ Decimal.maxPower) :
    reread? (.float x) = some (.float
      (Float.ofNat l.decimal.digits / Decimal.powerOfTen l.decimal.exponent.natAbs)) := by
  have hliteral : literal? (.float x) = some l := by rw [literal?, htext, hl]
  have hvalue : l.value? = l.decimal.scaled?.map .float := by
    simp [NumberLiteral.value?, hfraction, hpositive]
  rw [reread?, hliteral, Option.bind_some, hvalue, Decimal.scaled?, Decimal.scale?, if_pos hhigh,
    if_neg (Int.not_le.mpr hlow), Option.map_some]

theorem Number.reread?_half : reread? (.float 0.5) = some (.float 0.5) := by
  have hread := Number.reread?_positional (x := 0.5) (by decide +kernel)
    (rfl : NumberLiteral.ofChars? "0.5".toList = some ⟨false, ['0'], ['5'], none⟩)
    rfl nofun (by decide +kernel) (by decide +kernel)
  have hquotient : Float.ofNat 5 / Decimal.powerOfTen 1 = 0.5 := by decide +kernel
  exact hread.trans (congrArg (fun x => some (Number.float x)) hquotient)

end AccessControl.Json
