import AccessControl.Proofs.Json.Number
import AccessControl.Proofs.Json.Structure

/-!
The lexemes of written JSON. What is written for a value is taken apart into the same lexemes
wherever it stands, as long as what follows does not go on with its last one.
-/

namespace AccessControl.Json

/-- Nothing in front goes on into these characters. -/
def Delimits : List Char → Prop
  | [] => True
  | c :: _ => isNumberChar c = false ∧ c.isLower = false

instance : DecidablePred Delimits
  | [] => inferInstanceAs (Decidable True)
  | c :: _ => inferInstanceAs (Decidable (isNumberChar c = false ∧ c.isLower = false))

theorem Delimits.append {cs rest : List Char} (h : Delimits cs) (hrest : Delimits rest) :
    Delimits (cs ++ rest) := by
  cases cs with
  | nil => exact hrest
  | cons c cs => exact h

theorem Delimits.cons {c : Char} (h : Delimits [c]) (cs : List Char) : Delimits (c :: cs) :=
  h

/-- Wherever these characters stand, these lexemes are read off them, or none where there are
none. -/
def ScansTo (cs : List Char) (lexemes? : Option (List Lexeme)) : Prop :=
  ∀ done rest, Delimits rest →
    scan done (cs ++ rest) = lexemes?.bind fun ls => scan (ls.reverse ++ done) rest

/-- One part after another. -/
def joined? (as? bs? : Option (List Lexeme)) : Option (List Lexeme) :=
  as?.bind fun as => bs?.map fun bs => as ++ bs

theorem ScansTo.append {as bs : List Char} {as? bs? : Option (List Lexeme)} (ha : ScansTo as as?)
    (hb : ScansTo bs bs?) (h : Delimits bs) : ScansTo (as ++ bs) (joined? as? bs?) := by
  intro done rest hrest
  rw [List.append_assoc, ha done (bs ++ rest) (h.append hrest), joined?, Option.bind_assoc]
  congr 1
  funext ls
  rw [hb (ls.reverse ++ done) rest hrest]
  cases bs? <;> simp

/-- Punctuation needs nothing between it and what follows. -/
theorem ScansTo.cons {c : Char} {l : Lexeme} {cs : List Char} {cs? : Option (List Lexeme)}
    (h : ScansTo cs cs?) (hc : Lexeme.ofPunctuation? c = some l) :
    ScansTo (c :: cs) (joined? (some [l]) cs?) := by
  intro done rest hrest
  have hother : isSpace c = false ∧ c ≠ '"' ∧ isNumberChar c = false ∧ c.isLower = false := by
    unfold Lexeme.ofPunctuation? at hc
    split at hc <;> simp at hc <;> decide
  obtain ⟨hspace, hquote, hnumber, hlower⟩ := hother
  have hscan : scan done (c :: (cs ++ rest)) = scan (l :: done) (cs ++ rest) := by
    rw [scan]
    simp [hspace, hquote, hnumber, hlower, hc]
  rw [List.cons_append, hscan, h (l :: done) rest hrest]
  cases cs? <;> simp [joined?]

theorem scansTo_nil : ScansTo [] (some []) := by
  intro done rest _
  rfl

theorem span_append {p : Char → Bool} {cs rest : List Char} (h : ∀ c ∈ cs, p c = true)
    (hrest : ∀ c ∈ rest.head?, p c = false) :
    (cs ++ rest).takeWhile p = cs ∧ (cs ++ rest).dropWhile p = rest := by
  have hstop : rest.takeWhile p = [] ∧ rest.dropWhile p = rest := by
    cases rest with
    | nil => exact ⟨rfl, rfl⟩
    | cons c rest => simp [hrest c rfl]
  rw [List.takeWhile_append_of_pos h, List.dropWhile_append_of_pos h, hstop.1, hstop.2]
  exact ⟨List.append_nil cs, rfl⟩

theorem Delimits.head {rest : List Char} (h : Delimits rest) :
    ∀ c ∈ rest.head?, isNumberChar c = false ∧ c.isLower = false := by
  intro c hc
  obtain ⟨rest, rfl⟩ := List.head?_eq_some_iff.mp hc
  exact h

/-- The word of a lexeme, up to where it ends. -/
theorem scansTo_word {c : Char} {cs : List Char} {l : Lexeme}
    (h : Lexeme.ofWord? (c :: cs) = some l) (hall : (c :: cs).all Char.isLower = true)
    (hc : isSpace c = false ∧ c ≠ '"' ∧ isNumberChar c = false) :
    ScansTo (c :: cs) (some [l]) := by
  intro done rest hrest
  obtain ⟨hspace, hquote, hnumber⟩ := hc
  have hlower := List.all_eq_true.mp hall
  obtain ⟨htake, hdrop⟩ := span_append hlower fun d hd => (hrest.head d hd).2
  have hfirst : c.isLower = true := hlower c List.mem_cons_self
  rw [List.cons_append] at htake hdrop ⊢
  rw [scan]
  simp [hspace, hquote, hnumber, hfirst, htake, hdrop, h]

theorem scansTo_number {n : Number} (h : n.isFinite = true) :
    ScansTo n.write.toList (n.literal?.map fun l => [.number l.value?]) := by
  obtain ⟨c, cs, htext, hstart, hchars⟩ : ∃ c cs, n.write.toList = c :: cs ∧
      (c = '-' ∨ c.isDigit = true) ∧ ∀ d ∈ cs, isNumberChar d = true := by
    obtain ⟨c, cs, hmagnitude, hc, hcs⟩ := n.magnitude_chars
    rcases Number.write_toList h with htext | htext
    · exact ⟨c, cs, htext.trans hmagnitude, .inr hc, hcs⟩
    · refine ⟨'-', c :: cs, htext.trans (congrArg _ hmagnitude), .inl rfl, ?_⟩
      exact List.forall_mem_cons.mpr ⟨isNumberChar_of_isDigit hc, hcs⟩
  have hc : isSpace c = false ∧ c ≠ '"' ∧ isNumberChar c = true ∧ c ≠ 'e' := by
    rcases hstart with rfl | hdigit
    · decide
    · refine ⟨?_, ?_, isNumberChar_of_isDigit hdigit, ?_⟩
      · refine Bool.eq_false_iff.mpr ?_
        intro hspace
        simp only [isSpace, Bool.or_eq_true, beq_iff_eq] at hspace
        rcases hspace with ((rfl | rfl) | rfl) | rfl <;> cases hdigit
      · rintro rfl
        cases hdigit
      · rintro rfl
        cases hdigit
  obtain ⟨hspace, hquote, hnumber, he⟩ := hc
  intro done rest hrest
  obtain ⟨htake, hdrop⟩ := span_append (List.forall_mem_cons.mpr ⟨hnumber, hchars⟩)
    fun d hd => (hrest.head d hd).1
  rw [Number.literal?, htext]
  rw [List.cons_append] at htake hdrop ⊢
  rw [scan]
  have hbegins : (isNumberChar c && c != 'e') = true := by simp [hnumber, he]
  simp only [hspace, hquote, hbegins, htake, hdrop]
  cases NumberLiteral.ofChars? (c :: cs) <;> simp

/-- The part of a text that the escaped form of a character is read as. -/
def unitOf (c : Char) : TextUnit :=
  if c.toNat < 0x20 ∧ c ∉ ['\x08', '\x0c', '\n', '\r', '\t'] then .code c.toNat else .char c

theorem hexCode?_hexChar : ∀ n < 0x20,
    Text.hexCode? '0' '0' (Text.hexChar (n / 16)) (Text.hexChar (n % 16)) = some n := by
  decide

theorem scanUnits_escapeChar (done : List TextUnit) (c : Char) (rest : List Char) :
    scanUnits done (escapeChar c ++ rest) = scanUnits (unitOf c :: done) rest := by
  by_cases hshort : c ∈ ['"', '\\', '\x08', '\x0c', '\n', '\r', '\t']
  · simp only [List.mem_cons, List.not_mem_nil, or_false] at hshort
    rcases hshort with rfl | rfl | rfl | rfl | rfl | rfl | rfl <;>
      simp [escapeChar, scanUnits, escaped?, unitOf]
  · simp only [List.mem_cons, List.not_mem_nil, or_false, not_or] at hshort
    by_cases hcontrol : c.toNat < 0x20
    · simp [escapeChar, hshort, hcontrol, scanUnits, hexCode?_hexChar, unitOf]
    · simp [escapeChar, hshort, hcontrol, scanUnits, unitOf]

theorem scanUnits_escaped (done : List TextUnit) (cs rest : List Char) :
    scanUnits done (cs.flatMap escapeChar ++ '"' :: rest) =
      some (done.reverse ++ cs.map unitOf, rest) := by
  induction cs generalizing done with
  | nil => simp [scanUnits]
  | cons c cs ih =>
    rw [List.flatMap_cons, List.append_assoc, scanUnits_escapeChar, ih]
    simp

/-- A code below the surrogates is a character by itself. -/
theorem joinUnits?_code {n : Nat} (h : n < 0xD800) (done : List Char) (us : List TextUnit) :
    joinUnits? done (.code n :: us) = joinUnits? (Char.ofNat n :: done) us := by
  have hnot : ¬ 0xD800 ≤ n ∧ ¬ 0xDC00 ≤ n := ⟨by omega, by omega⟩
  rcases us with _ | ⟨u | m, us⟩ <;> simp [joinUnits?, hnot]

theorem joinUnits?_unitOf (done : List Char) (c : Char) (us : List TextUnit) :
    joinUnits? done (unitOf c :: us) = joinUnits? (c :: done) us := by
  unfold unitOf
  split
  · rename_i hcontrol
    rw [joinUnits?_code (by omega), Char.ofNat_toNat]
  · rw [joinUnits?]

theorem joinUnits?_units (done cs : List Char) :
    joinUnits? done (cs.map unitOf) = some (done.reverse ++ cs) := by
  induction cs generalizing done with
  | nil => simp [joinUnits?]
  | cons c cs ih =>
    rw [List.map_cons, joinUnits?_unitOf, ih]
    simp

theorem scansTo_quote (s : String) : ScansTo (quote s).toList (some [.text (some s)]) := by
  intro done rest _
  have hunits : scanUnits [] (s.toList.flatMap escapeChar ++ '"' :: rest) =
      some (s.toList.map unitOf, rest) := scanUnits_escaped [] s.toList rest
  have htext : (joinUnits? [] (s.toList.map unitOf)).map String.ofList = some s := by
    simp [joinUnits?_units]
  have hquote : (quote s).toList ++ rest = '"' :: (s.toList.flatMap escapeChar ++ '"' :: rest) := by
    simp [quote]
  rw [hquote, scan]
  simp only [isSpace, Char.reduceBEq, Bool.or_self, Bool.false_eq_true, if_false, if_true]
  split
  · rename_i h
    cases hunits.symm.trans h
  · rename_i units after h
    cases hunits.symm.trans h
    rw [htext]
    rfl

/-- The parts that follow a first one, each after a comma. -/
def following? : List (Option (List Lexeme)) → Option (List Lexeme)
  | [] => some []
  | part? :: parts => joined? (some [.comma]) (joined? part? (following? parts))

/-- Parts with commas between them. -/
def separated? : List (Option (List Lexeme)) → Option (List Lexeme)
  | [] => some []
  | part? :: parts => joined? part? (following? parts)

def bracketed? (opening : Lexeme) (parts : List (Option (List Lexeme))) (closing : Lexeme) :
    Option (List Lexeme) :=
  joined? (some [opening]) (joined? (separated? parts) (some [closing]))

mutual

/-- The lexemes of the text of a value; none where the text of a number is no literal. -/
def lexemes? : Json → Option (List Lexeme)
  | .null => some [.null]
  | .bool value => some [.bool value]
  | .number n => n.literal?.map fun l => [.number l.value?]
  | .text value => some [.text (some value)]
  | .list items => bracketed? .openList (itemLexemes items) .closeList
  | .record entries => bracketed? .openRecord (entryLexemes entries) .closeRecord

def itemLexemes : List Json → List (Option (List Lexeme))
  | [] => []
  | j :: js => lexemes? j :: itemLexemes js

def entryLexemes : List (String × Json) → List (Option (List Lexeme))
  | [] => []
  | (name, j) :: es =>
    joined? (some [.text (some name)]) (joined? (some [.colon]) (lexemes? j)) :: entryLexemes es

end

/-- Texts, and the lexemes of each one. -/
inductive ScanTo : List String → List (Option (List Lexeme)) → Prop
  | nil : ScanTo [] []
  | cons {t : String} {ts : List String} {part? : Option (List Lexeme)}
    {parts : List (Option (List Lexeme))} :
    ScansTo t.toList part? → ScanTo ts parts → ScanTo (t :: ts) (part? :: parts)

theorem ScanTo.following {texts : List String} {parts : List (Option (List Lexeme))}
    (h : ScanTo texts parts) :
    ScansTo (texts.flatMap fun t => ',' :: t.toList) (following? parts) ∧
      Delimits (texts.flatMap fun t => ',' :: t.toList) := by
  induction h with
  | nil => exact ⟨scansTo_nil, trivial⟩
  | cons hpart _ ih => exact ⟨(hpart.append ih.1 ih.2).cons rfl, .cons (by decide) _⟩

theorem ScanTo.separated {texts : List String} {parts : List (Option (List Lexeme))}
    (h : ScanTo texts parts) :
    ScansTo (String.intercalate "," texts).toList (separated? parts) := by
  have htext : ∀ (t : String) (ts : List String), (String.intercalate "," (t :: ts)).toList =
      t.toList ++ ts.flatMap fun t => ',' :: t.toList := by
    intro t ts
    induction ts generalizing t with
    | nil => simp
    | cons u ts ih => simp [String.intercalate_cons_cons, ih]
  cases h with
  | nil => simpa [separated?] using scansTo_nil
  | cons hpart hparts =>
    rw [htext]
    exact hpart.append hparts.following.1 hparts.following.2

theorem ScanTo.parenthesize {texts : List String} {parts : List (Option (List Lexeme))}
    (h : ScanTo texts parts) (o c : Char) {before after : String} {opening closing : Lexeme}
    (hbefore : before.toList = [o]) (ho : Lexeme.ofPunctuation? o = some opening)
    (hafter : after.toList = [c]) (hc : Lexeme.ofPunctuation? c = some closing)
    (hdelimits : Delimits [c]) :
    ScansTo (parenthesize before texts after).toList (bracketed? opening parts closing) := by
  have hclosing : ScansTo [c] (some [closing]) := scansTo_nil.cons hc
  simpa [Json.parenthesize, bracketed?, hbefore, hafter] using
    (h.separated.append hclosing hdelimits).cons ho

mutual

/-- The text of a value is taken apart into its lexemes. -/
theorem scansTo_write : ∀ j : Json, (∀ n ∈ j.numbers, n.isFinite = true) →
    ScansTo j.write.toList j.lexemes?
  | .null, _ => by
    rw [write, lexemes?]
    simpa using @scansTo_word 'n' ['u', 'l', 'l'] .null rfl (by decide) (by decide)
  | .bool true, _ => by
    rw [write, lexemes?]
    simpa using @scansTo_word 't' ['r', 'u', 'e'] (.bool true) rfl (by decide) (by decide)
  | .bool false, _ => by
    rw [write, lexemes?]
    simpa using @scansTo_word 'f' ['a', 'l', 's', 'e'] (.bool false) rfl (by decide) (by decide)
  | .number n, h => scansTo_number (h n (List.mem_singleton_self n))
  | .text value, _ => scansTo_quote value
  | .list items, h => by
    rw [write, lexemes?]
    exact (scanTo_writeList items h).parenthesize '[' ']' (by simp) rfl (by simp) rfl (by decide)
  | .record entries, h => by
    rw [write, lexemes?]
    exact (scanTo_writeEntries entries h).parenthesize '\x7b' '\x7d' (by simp) rfl (by simp) rfl
      (by decide)

theorem scanTo_writeList : ∀ js : List Json, (∀ n ∈ itemNumbers js, n.isFinite = true) →
    ScanTo (writeList js) (itemLexemes js)
  | [], _ => .nil
  | j :: js, h => by
    obtain ⟨hj, hjs⟩ := List.forall_mem_append.mp h
    exact .cons (scansTo_write j hj) (scanTo_writeList js hjs)

theorem scanTo_writeEntries : ∀ es : List (String × Json),
    (∀ n ∈ entryNumbers es, n.isFinite = true) → ScanTo (writeEntries es) (entryLexemes es)
  | [], _ => .nil
  | (name, j) :: es, h => by
    obtain ⟨hj, hes⟩ := List.forall_mem_append.mp h
    have hentry : ScansTo (quote name ++ ":" ++ j.write).toList
        (joined? (some [.text (some name)]) (joined? (some [.colon]) j.lexemes?)) := by
      have hvalue := (scansTo_write j hj).cons (c := ':') rfl
      simpa using (scansTo_quote name).append hvalue (.cons (by decide) _)
    exact .cons hentry (scanTo_writeEntries es hes)

end

/-- All lexemes of the text of a value. -/
theorem ofText?_write {j : Json} (h : ∀ n ∈ j.numbers, n.isFinite = true) :
    Lexeme.ofText? j.write = j.lexemes? := by
  have hscan := scansTo_write j h [] [] trivial
  rw [List.append_nil] at hscan
  rw [Lexeme.ofText?, hscan]
  cases j.lexemes? <;> simp [scan]

end AccessControl.Json
