import AccessControl.Attribute.Reference

/-!
Results together with the attributes that were looked up on the way to them, in order.
-/

namespace AccessControl

structure Traced (α : Type) where
  value : α
  reads : List AttributeRef

namespace Traced

variable {α β : Type}

/-- A result that needed no attribute. -/
def pure (value : α) : Traced α :=
  ⟨value, []⟩

def map (f : α → β) (t : Traced α) : Traced β :=
  ⟨f t.value, t.reads⟩

/-- Goes on from a result; what is looked up then comes after. -/
def andThen (t : Traced α) (next : α → Traced β) : Traced β :=
  ⟨(next t.value).value, t.reads ++ (next t.value).reads⟩

@[simp]
theorem pure_andThen (value : α) (next : α → Traced β) : (pure value).andThen next = next value :=
  rfl

@[simp]
theorem map_pure (f : α → β) (value : α) : (pure value).map f = pure (f value) :=
  rfl

@[simp]
theorem value_map (f : α → β) (t : Traced α) : (t.map f).value = f t.value :=
  rfl

@[simp]
theorem map_map {γ : Type} (g : β → γ) (f : α → β) (t : Traced α) :
    (t.map f).map g = t.map fun a => g (f a) :=
  rfl

/-- The names looked up on the protected resource. -/
def resourceReads (t : Traced α) : List String :=
  (t.reads.filter fun r => r.space == .resource).map (·.name)

end Traced

end AccessControl
