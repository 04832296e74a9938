import AccessControl.Text.Order
import Mathlib.Data.List.Infix

/-!
Texts as lists of characters. The order of texts is the lexicographic one by code point, and a text
is found in another one where the other one splits around it.
-/

namespace AccessControl.Text

theorem containsChars_iff {needle cs : List Char} :
    containsChars needle cs = true ↔ needle <:+: cs := by
  induction cs with
  | nil => simp [containsChars]
  | cons c cs ih =>
    rw [containsChars, Bool.or_eq_true, ih, List.isPrefixOf_iff_prefix, List.infix_cons_iff]

/-- Every list of characters is the one of some text. -/
theorem exists_chars_iff {P : List Char → Prop} : (∃ cs, P cs) ↔ ∃ s : String, P s.toList := by
  constructor
  · rintro ⟨cs, h⟩
    exact ⟨String.ofList cs, by rwa [String.toList_ofList]⟩
  · rintro ⟨s, h⟩
    exact ⟨s.toList, h⟩

variable {s t : String}

theorem startsWith_iff : startsWith s t = true ↔ ∃ after, s = t ++ after := by
  rw [startsWith, List.isPrefixOf_iff_prefix, List.IsPrefix, exists_chars_iff]
  refine exists_congr fun after => ?_
  rw [← String.toList_append, String.toList_inj, eq_comm]

theorem endsWith_iff : endsWith s t = true ↔ ∃ before, s = before ++ t := by
  rw [endsWith, List.isSuffixOf_iff_suffix, List.IsSuffix, exists_chars_iff]
  refine exists_congr fun before => ?_
  rw [← String.toList_append, String.toList_inj, eq_comm]

theorem contains_iff : contains s t = true ↔ ∃ before after, s = before ++ t ++ after := by
  rw [contains, containsChars_iff, List.IsInfix, exists_chars_iff]
  refine exists_congr fun before => ?_
  rw [exists_chars_iff]
  refine exists_congr fun after => ?_
  rw [← String.toList_append, ← String.toList_append, String.toList_inj, eq_comm]

theorem lessChars_iff_lex {as bs : List Char} :
    lessChars as bs = true ↔ List.Lex (fun a b => a.toNat < b.toNat) as bs := by
  induction as generalizing bs with
  | nil => cases bs <;> simp [lessChars]
  | cons a as ih =>
    cases bs with
    | nil => simp [lessChars]
    | cons b bs => simp [lessChars, List.cons_lex_cons_iff, ih]

end AccessControl.Text
