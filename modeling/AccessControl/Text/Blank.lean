/-!
Blank characters: the White_Space property. `trim` takes them off both ends of a text, and a text is
blank when nothing else is in it.
-/

namespace AccessControl.Text

/-- White_Space: the ASCII blanks, the next-line control, and the space separators. -/
def isBlankChar (c : Char) : Bool :=
  let n := c.toNat
  (9 ≤ n && n ≤ 13) || n == 0x20 || n == 0x85 || n == 0xA0 || n == 0x1680 ||
    (0x2000 ≤ n && n ≤ 0x200A) || n == 0x2028 || n == 0x2029 || n == 0x202F || n == 0x205F ||
    n == 0x3000

/-- Drops blanks from both ends. -/
def trimChars (cs : List Char) : List Char :=
  ((cs.dropWhile isBlankChar).reverse.dropWhile isBlankChar).reverse

def trim (s : String) : String :=
  String.ofList (trimChars s.toList)

def isBlank (s : String) : Bool :=
  s.toList.all isBlankChar

theorem dropWhile_eq_nil_iff_all {α : Type} {p : α → Bool} {xs : List α} :
    xs.dropWhile p = [] ↔ xs.all p = true := by
  induction xs with
  | nil => simp
  | cons x xs ih => by_cases hx : p x = true <;> simp [hx, ih]

/-- Nothing is left of a text exactly when it is blank. -/
theorem trimChars_eq_nil_iff {cs : List Char} : trimChars cs = [] ↔ cs.all isBlankChar = true := by
  constructor
  · intro h
    simp only [trimChars, List.reverse_eq_nil_iff, dropWhile_eq_nil_iff_all] at h
    cases hd : cs.dropWhile isBlankChar with
    | nil => exact dropWhile_eq_nil_iff_all.mp hd
    | cons d ds =>
      have hlead := List.head_dropWhile_not (p := isBlankChar) (l := cs) (by simp [hd])
      rw [hd] at h
      simp [hd] at hlead
      simp [hlead] at h
  · intro h
    simp [trimChars, dropWhile_eq_nil_iff_all.mpr h]

theorem trim_eq_empty_iff {s : String} : trim s = "" ↔ isBlank s = true := by
  rw [trim, isBlank, ← trimChars_eq_nil_iff]
  constructor
  · intro h
    have := congrArg String.toList h
    simpa using this
  · intro h
    simp [h]

/-- Blanks around a text make no difference. -/
theorem trimChars_surrounded {before after : List Char} (hbefore : before.all isBlankChar = true)
    (hafter : after.all isBlankChar = true) (cs : List Char) :
    trimChars (before ++ cs ++ after) = trimChars cs := by
  rw [trimChars, trimChars, List.append_assoc,
    List.dropWhile_append_of_pos (List.all_eq_true.mp hbefore), List.dropWhile_append]
  split
  · rename_i hblank
    rw [dropWhile_eq_nil_iff_all.mpr hafter, List.isEmpty_iff.mp hblank]
  · have hreversed : ∀ c ∈ after.reverse, isBlankChar c = true := by simpa using hafter
    rw [List.reverse_append, List.dropWhile_append_of_pos hreversed]

theorem trim_surrounded {before after : String} (hbefore : isBlank before = true)
    (hafter : isBlank after = true) (s : String) : trim (before ++ s ++ after) = trim s := by
  rw [trim, trim, String.toList_append, String.toList_append, trimChars_surrounded hbefore hafter]

/-- A text between two characters that are not blank stays as it is. -/
theorem trimChars_bracketed {first last : Char} (hfirst : isBlankChar first = false)
    (hlast : isBlankChar last = false) (cs : List Char) :
    trimChars (first :: cs ++ [last]) = first :: cs ++ [last] := by
  simp [trimChars, hfirst, hlast]

end AccessControl.Text
