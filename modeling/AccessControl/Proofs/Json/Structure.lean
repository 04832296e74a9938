import AccessControl.Json.Basic

/-!
JSON values by their structure: induction over them, and what holds of every number in them.
-/

namespace AccessControl.Json

/-- Induction with a hypothesis for every item of a list and every entry of a record. -/
@[induction_eliminator]
theorem ind {P : Json → Prop} (null : P .null) (bool : ∀ value, P (.bool value))
    (number : ∀ value, P (.number value)) (text : ∀ value, P (.text value))
    (list : ∀ items, (∀ j ∈ items, P j) → P (.list items))
    (record : ∀ entries, (∀ e ∈ entries, P e.2) → P (.record entries)) : ∀ j, P j := by
  refine @Json.rec P (fun js => ∀ j ∈ js, P j) (fun es => ∀ e ∈ es, P e.2) (fun e => P e.2)
    null bool number text list record ?_ ?_ ?_ ?_ ?_
  · intro j hj
    cases hj
  · intro j js hj hjs k hk
    rcases List.mem_cons.mp hk with rfl | hk
    · exact hj
    · exact hjs k hk
  · intro e he
    cases he
  · intro e es he hes d hd
    rcases List.mem_cons.mp hd with rfl | hd
    · exact he
    · exact hes d hd
  · intro name j hj
    exact hj

/-- A number that has a text of its own: an infinity and NaN are written as null. -/
def Number.isFinite : Number → Bool
  | .int _ => true
  | .float value => Dyadic.isFinite value

mutual

/-- All numbers in a value, in order. -/
def numbers : Json → List Number
  | .null => []
  | .bool _ => []
  | .number n => [n]
  | .text _ => []
  | .list items => itemNumbers items
  | .record entries => entryNumbers entries

def itemNumbers : List Json → List Number
  | [] => []
  | j :: js => numbers j ++ itemNumbers js

def entryNumbers : List (String × Json) → List Number
  | [] => []
  | (_, j) :: es => numbers j ++ entryNumbers es

end

theorem itemNumbers_eq_flatMap (js : List Json) : itemNumbers js = js.flatMap numbers := by
  induction js with
  | nil => rfl
  | cons j js ih => rw [itemNumbers, ih, List.flatMap_cons]

theorem entryNumbers_eq_flatMap (es : List (String × Json)) :
    entryNumbers es = es.flatMap fun e => e.2.numbers := by
  induction es with
  | nil => rfl
  | cons e es ih =>
    obtain ⟨name, j⟩ := e
    rw [entryNumbers, ih, List.flatMap_cons]

theorem entryNumbers_append (es fs : List (String × Json)) :
    entryNumbers (es ++ fs) = entryNumbers es ++ entryNumbers fs := by
  simp only [entryNumbers_eq_flatMap, List.flatMap_append]

theorem depthList_le_iff {js : List Json} {n : Nat} : depthList js ≤ n ↔ ∀ j ∈ js, j.depth ≤ n := by
  induction js with
  | nil => simp [depthList]
  | cons j js ih => rw [depthList, Nat.max_le, ih, List.forall_mem_cons]

theorem depthEntries_le_iff {es : List (String × Json)} {n : Nat} :
    depthEntries es ≤ n ↔ ∀ e ∈ es, e.2.depth ≤ n := by
  induction es with
  | nil => simp [depthEntries]
  | cons e es ih =>
    obtain ⟨name, j⟩ := e
    rw [depthEntries, Nat.max_le, ih, List.forall_mem_cons]

end AccessControl.Json
