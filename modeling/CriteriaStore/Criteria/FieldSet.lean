/-!
# Field sets

A set of properties in the order of their first mention. As a projection, the empty set asks for every
column.
-/

namespace CriteriaStore

/-- Pairwise different properties, in the order of their first mention. -/
structure FieldSet where
  names : List String
  nodup : names.Nodup
  deriving DecidableEq

namespace FieldSet

@[ext] theorem ext {s t : FieldSet} (h : s.names = t.names) : s = t := by
  cases s; cases t; simp_all

/-- The set without properties. -/
def empty : FieldSet := ⟨[], by simp⟩

instance : Inhabited FieldSet := ⟨empty⟩

/-- Whether a property is in the set. -/
def contains (s : FieldSet) (property : String) : Bool := decide (property ∈ s.names)

/-- Add a property at the end, unless it is in the set already. -/
def add (s : FieldSet) (property : String) : FieldSet :=
  if h : property ∈ s.names then s
  else ⟨s.names ++ [property], by
    rw [List.nodup_append]
    exact ⟨s.nodup, by simp, fun a ha b hb he => h (List.mem_singleton.1 hb ▸ he ▸ ha)⟩⟩

/-- The set of the listed properties. -/
def ofList (properties : List String) : FieldSet := properties.foldl add empty

/-- The number of properties. -/
def size (s : FieldSet) : Nat := s.names.length

/-- Whether there is no property. -/
def isEmpty (s : FieldSet) : Bool := s.names.isEmpty

theorem mem_add {s : FieldSet} {p q : String} : q ∈ (s.add p).names ↔ q ∈ s.names ∨ q = p := by
  unfold add
  split
  · rename_i h
    exact ⟨Or.inl, fun hq => hq.elim id fun he => he ▸ h⟩
  · simp

theorem isEmpty_add (s : FieldSet) (p : String) : (s.add p).isEmpty = false := by
  have hp : p ∈ (s.add p).names := mem_add.2 (.inr rfl)
  exact List.isEmpty_eq_false_iff.2 (List.ne_nil_of_mem hp)

end FieldSet

end CriteriaStore
