import AccessControl.Json.Fields
import AccessControl.Json.Reader
import AccessControl.Proofs.Json.Lexing

/-!
Reading back what was written. The lexemes of a value hand it to the innermost open list or record,
with its numbers as their texts are read, unless it nests too deep below what is open.
-/

namespace AccessControl.Json

/-- An outline wants all of a value. -/
inductive Outline.Covers : Outline → Json → Prop
  | null {o : Outline} : o.isSkipped = false → Covers o .null
  | bool {o : Outline} {value : Bool} : o.isSkipped = false → Covers o (.bool value)
  | number {o : Outline} {n : Number} : o.isSkipped = false → Covers o (.number n)
  | text {o : Outline} {value : String} : o.isSkipped = false → Covers o (.text value)
  | list {o : Outline} {items : List Json} :
    o.isSkipped = false → (∀ j ∈ items, ∀ i, Covers (o.item i) j) → Covers o (.list items)
  | record {o : Outline} {entries : List (String × Json)} :
    o.isSkipped = false → (∀ e ∈ entries, Covers (o.entry e.1) e.2) → Covers o (.record entries)

theorem Outline.Covers.not_skipped {o : Outline} {j : Json} (h : o.Covers j) :
    o.isSkipped = false := by
  cases h <;> assumption

theorem Outline.covers_whole (j : Json) : Outline.whole.Covers j := by
  induction j with
  | null => exact .null rfl
  | bool value => exact .bool rfl
  | number n => exact .number rfl
  | text value => exact .text rfl
  | list items ih => exact .list rfl fun j hj _ => ih j hj
  | record entries ih => exact .record rfl fun e he => ih e he

theorem Outline.entry_whole {shape : List Field} {name : String}
    (h : name ∈ shape.map (·.name)) :
    (Outline.record (shape.map fun f => (f.name, .whole))).entry name = .whole := by
  induction shape with
  | nil => cases h
  | cons f fs ih =>
    by_cases hname : name = f.name
    · simp [entry, hname]
    · have hother : name ∈ fs.map (·.name) := (List.mem_cons.mp h).resolve_left hname
      simpa [entry, NameMap.lookup_cons_if, hname] using ih hother

/-- A record that has declared entries only is wanted as a whole. -/
theorem Outline.covers_record {shape : List Field} {entries : List (String × Json)}
    (h : ∀ e ∈ entries, e.1 ∈ shape.map (·.name)) :
    (Outline.record (shape.map fun f => (f.name, .whole))).Covers (.record entries) := by
  refine .record rfl ?_
  intro e he
  rw [entry_whole (h e he)]
  exact covers_whole e.2

mutual

/-- A value as its text is read where there is room for so many lists and records inside each other;
none when it nests deeper, or the text of one of its numbers is read as no number. -/
def within? (room : Nat) : Json → Option Json
  | .null => some .null
  | .bool value => some (.bool value)
  | .number n => n.reread?.map .number
  | .text value => some (.text value)
  | .list items => if room = 0 then none else (itemsWithin? (room - 1) items).map .list
  | .record entries => if room = 0 then none else (entriesWithin? (room - 1) entries).map .record

def itemsWithin? (room : Nat) : List Json → Option (List Json)
  | [] => some []
  | j :: js => do
    let value ← within? room j
    let values ← itemsWithin? room js
    return value :: values

def entriesWithin? (room : Nat) : List (String × Json) → Option (List (String × Json))
  | [] => some []
  | (name, j) :: es => do
    let value ← within? room j
    let values ← entriesWithin? room es
    return (name, value) :: values

end

variable {top o : Outline} {frames : List Frame} {r : Reading}

theorem run_append (top : Outline) (r : Reading) (ls ms : List Lexeme) :
    run top r (ls ++ ms) = (run top r ls).bind fun r => run top r ms := by
  induction ls generalizing r with
  | nil => rfl
  | cons l ls ih =>
    rw [List.cons_append, run, run]
    cases step top r l with
    | none => rfl
    | some next => exact ih next

/-- What reading makes of lexemes that may be missing. -/
def runOn (top : Outline) (r : Reading) (lexemes? : Option (List Lexeme)) : Option Reading :=
  lexemes?.bind (run top r)

theorem runOn_joined? (as? bs? : Option (List Lexeme)) :
    runOn top r (joined? as? bs?) = (runOn top r as?).bind fun r => runOn top r bs? := by
  cases as? with
  | none => rfl
  | some ls =>
    cases bs? with
    | none => simp [runOn, joined?]
    | some ms => exact run_append top r ls ms

theorem runOn_single (l : Lexeme) : runOn top r (some [l]) = step top r l := by
  simp only [runOn, Option.bind_some, run]
  cases step top r l <;> rfl

/-- A scalar is handed over where a value may come. -/
theorem step_scalar (h : wanted? top frames = some o) :
    step top (.inside frames) .null = deliver .null frames ∧
      (∀ value, step top (.inside frames) (.bool value) = deliver (.bool value) frames) ∧
      (∀ n : Option Number,
        step top (.inside frames) (.number n) = takeScalar top (n.map .number) frames) ∧
      ∀ value, step top (.inside frames) (.text (some value)) = deliver (.text value) frames := by
  unfold wanted? at h
  split at h <;> cases h <;> simp [step, takeScalar, wanted?]

/-- A list or record is opened where a value may come and there is room for one more. -/
theorem step_open (h : wanted? top frames = some o) (hs : o.isSkipped = false) :
    step top (.inside frames) .openList =
        (if frames.length < maxDepth then some (.inside (.list o [] .first :: frames)) else none) ∧
      step top (.inside frames) .openRecord =
        if frames.length < maxDepth then some (.inside (.record o [] .first :: frames))
          else none := by
  unfold wanted? at h
  split at h <;> cases h <;> simp [step, openFrame, wanted?, hs]

theorem deliver_entry {done : List (String × Json)} {name : String} (value : Json)
    (h : (o.entry name).isSkipped = false) :
    deliver value (.record o done (.value name) :: frames) =
      some (.inside (.record o ((name, value) :: done) .after :: frames)) := by
  simp [deliver, h]

/-- The room that open lists and records leave. -/
def room (frames : List Frame) : Nat :=
  maxDepth - frames.length

theorem room_cons (frame : Frame) (frames : List Frame) :
    room (frame :: frames) = room frames - 1 :=
  Nat.sub_succ' maxDepth frames.length

theorem room_eq_zero_iff : room frames = 0 ↔ ¬ frames.length < maxDepth := by
  rw [room]
  omega

/-- The lexemes of a value hand it over, as its text is read, where all of it is wanted. -/
def HandsOver (top : Outline) (j : Json) : Prop :=
  ∀ (frames : List Frame) (o : Outline), wanted? top frames = some o → o.Covers j →
    runOn top (.inside frames) j.lexemes? =
      (j.within? (room frames)).bind fun value => deliver value frames

theorem HandsOver.number (n : Number) : HandsOver top (.number n) := by
  intro frames o h hcovers
  have hskipped := hcovers.not_skipped
  rw [lexemes?, within?, Number.reread?]
  cases n.literal? with
  | none => rfl
  | some l =>
    refine (runOn_single _).trans (((step_scalar h).2.2.1 l.value?).trans ?_)
    cases hvalue : l.value? <;> simp [takeScalar, h, hskipped, hvalue]

section Items

variable {items : List Json} (hitems : ∀ j ∈ items, HandsOver top j)
  (hcovers : ∀ j ∈ items, ∀ i, (o.item i).Covers j)

/-- An item goes to the list it stands in. -/
theorem runOn_item {j : Json} {done : List Json} {place : ItemStep}
    (hplace : place = .first ∨ place = .item) (hj : HandsOver top j)
    (hcovers : ∀ i, (o.item i).Covers j) :
    runOn top (.inside (.list o done place :: frames)) j.lexemes? =
      (j.within? (room frames - 1)).map fun value =>
        .inside (.list o (value :: done) .after :: frames) := by
  have hwanted : wanted? top (.list o done place :: frames) = some (o.item done.length) := by
    rcases hplace with rfl | rfl <;> rfl
  rw [hj _ _ hwanted (hcovers _), room_cons]
  cases j.within? (room frames - 1) with
  | none => rfl
  | some value => rcases hplace with rfl | rfl <;> rfl

include hitems hcovers

theorem runOn_followingItems (done : List Json) :
    runOn top (.inside (.list o done .after :: frames)) (following? (itemLexemes items)) =
      (itemsWithin? (room frames - 1) items).map fun values =>
        .inside (.list o (values.reverse ++ done) .after :: frames) := by
  induction items generalizing done with
  | nil => rfl
  | cons j js ih =>
    obtain ⟨hj, hjs⟩ := List.forall_mem_cons.mp hitems
    obtain ⟨hcover, hcovers⟩ := List.forall_mem_cons.mp hcovers
    have hcomma : step top (.inside (.list o done .after :: frames)) .comma =
        some (.inside (.list o done .item :: frames)) := rfl
    rw [itemLexemes, following?, runOn_joined?, runOn_single, hcomma, Option.bind_some,
      runOn_joined?, runOn_item (.inr rfl) hj hcover, itemsWithin?]
    cases j.within? (room frames - 1) with
    | none => rfl
    | some value =>
      simp only [Option.bind_some, Option.map_some, ih hjs hcovers]
      cases itemsWithin? (room frames - 1) js <;> simp

/-- From the opening bracket of a list to its closing one. -/
theorem runOn_items :
    runOn top (.inside (.list o [] .first :: frames))
        (joined? (separated? (itemLexemes items)) (some [.closeList])) =
      (itemsWithin? (room frames - 1) items).bind fun values => deliver (.list values) frames := by
  cases items with
  | nil => exact runOn_single _
  | cons j js =>
    obtain ⟨hj, hjs⟩ := List.forall_mem_cons.mp hitems
    obtain ⟨hcover, hcovers⟩ := List.forall_mem_cons.mp hcovers
    rw [itemLexemes, separated?, runOn_joined?, runOn_joined?, runOn_item (.inl rfl) hj hcover,
      itemsWithin?]
    cases j.within? (room frames - 1) with
    | none => rfl
    | some value =>
      simp only [Option.bind_some, Option.map_some, runOn_followingItems hjs hcovers]
      cases itemsWithin? (room frames - 1) js with
      | none => rfl
      | some values => simp [runOn_single, step]

end Items

theorem HandsOver.list {items : List Json} (hitems : ∀ j ∈ items, HandsOver top j) :
    HandsOver top (.list items) := by
  intro frames o h hcovers
  have hskipped := hcovers.not_skipped
  cases hcovers with
  | list _ hcovers =>
    rw [lexemes?, bracketed?, runOn_joined?, runOn_single, (step_open h hskipped).1, within?]
    by_cases hroom : frames.length < maxDepth
    · have hne : room frames ≠ 0 := fun hzero => room_eq_zero_iff.mp hzero hroom
      rw [if_pos hroom, if_neg hne, Option.bind_some, runOn_items hitems hcovers, Option.bind_map]
      rfl
    · rw [if_neg hroom, if_pos (room_eq_zero_iff.mpr hroom)]
      rfl

section Entries

variable {entries : List (String × Json)} (hentries : ∀ e ∈ entries, HandsOver top e.2)
  (hcovers : ∀ e ∈ entries, (o.entry e.1).Covers e.2)

/-- An entry goes to the record it stands in. -/
theorem runOn_entry {name : String} {j : Json} {done : List (String × Json)} {place : EntryStep}
    (hplace : place = .first ∨ place = .name) (hj : HandsOver top j)
    (hcovers : (o.entry name).Covers j) :
    runOn top (.inside (.record o done place :: frames))
        (joined? (some [.text (some name)]) (joined? (some [.colon]) j.lexemes?)) =
      (j.within? (room frames - 1)).map fun value =>
        .inside (.record o ((name, value) :: done) .after :: frames) := by
  have hname : step top (.inside (.record o done place :: frames)) (.text (some name)) =
      some (.inside (.record o done (.colon name) :: frames)) := by
    rcases hplace with rfl | rfl <;> rfl
  have hcolon : step top (.inside (.record o done (.colon name) :: frames)) .colon =
      some (.inside (.record o done (.value name) :: frames)) := rfl
  rw [runOn_joined?, runOn_single, hname, Option.bind_some, runOn_joined?, runOn_single, hcolon,
    Option.bind_some, hj (.record o done (.value name) :: frames) _ rfl hcovers, room_cons]
  cases j.within? (room frames - 1) with
  | none => rfl
  | some value => exact deliver_entry value hcovers.not_skipped

include hentries hcovers

theorem runOn_followingEntries (done : List (String × Json)) :
    runOn top (.inside (.record o done .after :: frames)) (following? (entryLexemes entries)) =
      (entriesWithin? (room frames - 1) entries).map fun values =>
        .inside (.record o (values.reverse ++ done) .after :: frames) := by
  induction entries generalizing done with
  | nil => rfl
  | cons e es ih =>
    obtain ⟨name, j⟩ := e
    obtain ⟨hj, hes⟩ := List.forall_mem_cons.mp hentries
    obtain ⟨hcover, hcovers⟩ := List.forall_mem_cons.mp hcovers
    have hcomma : step top (.inside (.record o done .after :: frames)) .comma =
        some (.inside (.record o done .name :: frames)) := rfl
    rw [entryLexemes, following?, runOn_joined?, runOn_single, hcomma, Option.bind_some,
      runOn_joined?, runOn_entry (.inr rfl) hj hcover, entriesWithin?]
    cases j.within? (room frames - 1) with
    | none => rfl
    | some value =>
      simp only [Option.bind_some, Option.map_some, ih hes hcovers]
      cases entriesWithin? (room frames - 1) es <;> simp

/-- From the opening brace of a record to its closing one. -/
theorem runOn_entries :
    runOn top (.inside (.record o [] .first :: frames))
        (joined? (separated? (entryLexemes entries)) (some [.closeRecord])) =
      (entriesWithin? (room frames - 1) entries).bind fun values =>
        deliver (.record values) frames := by
  cases entries with
  | nil => exact runOn_single _
  | cons e es =>
    obtain ⟨name, j⟩ := e
    obtain ⟨hj, hes⟩ := List.forall_mem_cons.mp hentries
    obtain ⟨hcover, hcovers⟩ := List.forall_mem_cons.mp hcovers
    rw [entryLexemes, separated?, runOn_joined?, runOn_joined?, runOn_entry (.inl rfl) hj hcover,
      entriesWithin?]
    cases j.within? (room frames - 1) with
    | none => rfl
    | some value =>
      simp only [Option.bind_some, Option.map_some, runOn_followingEntries hes hcovers]
      cases entriesWithin? (room frames - 1) es with
      | none => rfl
      | some values => simp [runOn_single, step]

end Entries

theorem HandsOver.record {entries : List (String × Json)}
    (hentries : ∀ e ∈ entries, HandsOver top e.2) : HandsOver top (.record entries) := by
  intro frames o h hcovers
  have hskipped := hcovers.not_skipped
  cases hcovers with
  | record _ hcovers =>
    rw [lexemes?, bracketed?, runOn_joined?, runOn_single, (step_open h hskipped).2, within?]
    by_cases hroom : frames.length < maxDepth
    · have hne : room frames ≠ 0 := fun hzero => room_eq_zero_iff.mp hzero hroom
      rw [if_pos hroom, if_neg hne, Option.bind_some, runOn_entries hentries hcovers,
        Option.bind_map]
      rfl
    · rw [if_neg hroom, if_pos (room_eq_zero_iff.mpr hroom)]
      rfl

theorem handsOver (top : Outline) (j : Json) : HandsOver top j := by
  induction j with
  | null => exact fun _ _ h _ => (runOn_single _).trans (step_scalar h).1
  | bool value => exact fun _ _ h _ => (runOn_single _).trans ((step_scalar h).2.1 value)
  | number n => exact .number n
  | text value => exact fun _ _ h _ => (runOn_single _).trans ((step_scalar h).2.2.2 value)
  | list items ih => exact .list ih
  | record entries ih => exact .record ih

/-- What is written for a value is read as its numbers' texts are, where it does not nest too
deep. -/
theorem read_write {o : Outline} {j : Json} (hfinite : ∀ n ∈ j.numbers, n.isFinite = true)
    (hcovers : o.Covers j) : read o j.write = j.within? maxDepth := by
  have hrun : (j.lexemes?.bind fun ls => run o (.inside []) ls) =
      (j.within? maxDepth).bind fun value => some (.finished value) :=
    handsOver o j [] o rfl hcovers
  simp only [read, ofText?_write hfinite, Option.bind_eq_bind]
  rw [← Option.bind_assoc, hrun]
  cases j.within? maxDepth <;> rfl

end AccessControl.Json
