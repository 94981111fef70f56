import CriteriaStore.Proofs.Criteria.Meaning
import CriteriaStore.Proofs.Storage.Pattern
import CriteriaStore.Storage.Sample

/-!
# Finding texts

What the textual operators ask of a column that holds a text (`Operator.Finds`), and that their patterns ask for nothing
else: a compiled condition is true on a text exactly when the operand is found in it, or not found, as the operator says
(`Condition.predicate_finds`). No character of an operand is special.
-/

namespace CriteriaStore

open Storage (Like Truth)
open Sql (Valuation)

namespace Operator

variable {α : Type} (fold : Char → α) (s t : List Char)

/-- Whether a text is one that a textual operator looks for, apart from how characters fold. -/
def Finds : Operator → Prop
  | contains => Anchor.anywhere.Finds fold s t
  | notContains => ¬Anchor.anywhere.Finds fold s t
  | startsWith => Anchor.start.Finds fold s t
  | notStarts => ¬Anchor.start.Finds fold s t
  | endsWith => Anchor.finish.Finds fold s t
  | notEnds => ¬Anchor.finish.Finds fold s t
  | _ => False

variable {fold s t} in
theorem finds_complement {op : Operator} (h : op.isTextual) :
    op.complement.Finds fold s t ↔ ¬op.Finds fold s t := by
  cases op with
  | contains | startsWith | endsWith => exact Iff.rfl
  | notContains | notStarts | notEnds => exact not_not.symm
  | _ => cases h

variable {fold s t} in
theorem finds_of_seeking {op : Operator} {negated : Bool} {a : Anchor} (h : op.seeking? = some (negated, a)) :
    op.Finds fold s t ↔ if negated then ¬a.Finds fold s t else a.Finds fold s t := by
  cases op with
  | contains | notContains | startsWith | notStarts | endsWith | notEnds =>
    cases h
    exact Iff.rfl
  | _ => cases h

/-- The predicate of a textual operator is true on a text exactly when the operator looks for that text. -/
private theorem exists_finding {op : Operator} {column : String} {v : Scalar} (h : op.isTextual) (hv : v ≠ .null)
    (hzero : '\x00' ∉ v.parameter.display.toList) :
    ∃ p, op.predicate? column (.scalar v) = some p ∧
      ∀ {V α : Type} (I : Valuation V) (fold : Char → α) {a : V} {t : List Char}, I.value column = some a →
        (∀ pattern : String, '\x00' ∉ pattern.toList → (I.likes pattern a ↔ Like fold pattern.toList t)) →
        (I.holdsPredicate p = .yes ↔ op.Finds fold v.parameter.display.toList t) := by
  obtain ⟨negated, a, hseeking⟩ := exists_seeking h
  have hmatching : matching? column negated a v = some (.like column negated (a.pattern v)) := by
    cases v with
    | null => exact absurd rfl hv
    | _ => rfl
  refine ⟨.like column negated (a.pattern v), by rw [predicate?_of_seeking hseeking, hmatching], ?_⟩
  intro V α I fold x t hx hlikes
  have hlike : I.likes (a.pattern v) x ↔ a.Finds fold v.parameter.display.toList t := by
    rw [hlikes _ (a.notMem_pattern hzero), a.like_pattern]
  have hvalue : I.holdsPredicate (.like column negated (a.pattern v)) =
      (Truth.ofBool (I.likes (a.pattern v) x)).negateIf negated := by
    rw [Valuation.holdsPredicate, Valuation.resembles, hx]
  rw [hvalue, finds_of_seeking hseeking, ← hlike]
  cases negated <;> cases I.likes (a.pattern v) x <;> decide

end Operator

namespace Condition

/-- A condition with a textual operator and something to look for compiles to a predicate that is true on a text exactly
when the operator, or its complement under `mustNot`, looks for that text: the text of the operand is in it somewhere, at
its beginning or at its end, or is not. This holds of any valuation whose patterns are matched as they are written, under
whichever folding of characters, and of the records of storage. -/
theorem predicate_finds {properties : PropertyMap} {property column : String} {op : Operator} {v : Scalar}
    (clause : Clause) (hop : op.isTextual) (hcolumn : properties.get? property = some column) (hv : v ≠ .null)
    (hzero : '\x00' ∉ v.parameter.display.toList) :
    ∃ p, predicate properties (clause.applied op) ⟨property, .scalar v⟩ = .ok p ∧
      (∀ {V α : Type} (I : Valuation V) (fold : Char → α) (a : V) (t : String),
        I.value column = some a →
        (∀ pattern : String, '\x00' ∉ pattern.toList → (I.likes pattern a ↔ Like fold pattern.toList t.toList)) →
        (I.holdsPredicate p = .yes ↔
          if clause.isNegated then ¬op.Finds fold v.parameter.display.toList t.toList
          else op.Finds fold v.parameter.display.toList t.toList)) ∧
      ∀ s r (t : String), Storage.Schema.cell s r column = .text t → '\x00' ∉ t.toList →
        (Storage.holdsPredicate s r p = .yes ↔
          if clause.isNegated then ¬op.Finds Storage.folded v.parameter.display.toList t.toList
          else op.Finds Storage.folded v.parameter.display.toList t.toList) := by
  have hclause : (clause.applied op).isTextual ∧ ∀ {α : Type} (fold : Char → α) (s t : List Char),
      (clause.applied op).Finds fold s t ↔ if clause.isNegated then ¬op.Finds fold s t else op.Finds fold s t := by
    unfold Clause.applied
    split
    · exact ⟨(Operator.isTextual_complement op).trans hop, fun fold s t => Operator.finds_complement hop⟩
    · exact ⟨hop, fun fold s t => Iff.rfl⟩
  obtain ⟨p, hp, hfinds⟩ : ∃ p, (clause.applied op).predicate? column (.scalar v) = some p ∧ _ :=
    Operator.exists_finding hclause.1 hv hzero
  refine ⟨p, ?_, ?_, ?_⟩
  · simp only [predicate, PropertyMap.column, hcolumn, hp]
  · intro V α I fold a t ha hlikes
    rw [hfinds I fold ha hlikes, hclause.2]
  · intro s r t hcell ht
    have hvalue : (Valuation.ofRecord s r).value column = some (.text t) := by
      simp [Valuation.ofRecord, Valuation.ofCell, hcell, Storage.Cell.isNull]
    have hlikes (pattern : String) (hpattern : '\x00' ∉ pattern.toList) :
        (Valuation.ofRecord s r).likes pattern (.text t) ↔ Like Storage.folded pattern.toList t.toList := by
      rw [← Storage.likeText_iff hpattern ht]
      rfl
    rw [← Valuation.holdsPredicate_ofRecord, hfinds _ Storage.folded hvalue hlikes, hclause.2]

/-- An operand of special characters only is looked for as it stands: `mustNot` of what lacks it keeps the customer whose
name has it, and not the one whose name would be like it. -/
theorem predicate_finds_of_wildcards :
    let properties : PropertyMap := OrderedMap.ofList [("name", "customer_name")]
    let v := Scalar.text "%_\\"
    Operator.notContains.isTextual ∧ properties.get? "name" = some "customer_name" ∧ v ≠ .null ∧
      '\x00' ∉ v.parameter.display.toList ∧
      ∃ p, predicate properties .contains ⟨"name", .scalar v⟩ = .ok p ∧
        ∀ number orders earnings created,
          Storage.holdsPredicate Storage.Sample.customers
            (Storage.Sample.customer number "A%_\\B" orders earnings created) p = .yes ∧
          Storage.holdsPredicate Storage.Sample.customers
            (Storage.Sample.customer number "AXYB" orders earnings created) p ≠ .yes := by
  intro properties v
  have hcolumn : properties.get? "name" = some "customer_name" := by decide
  have hzero : '\x00' ∉ v.parameter.display.toList := by decide
  have hv : v ≠ .null := nofun
  have hop : Operator.notContains.isTextual := rfl
  have hcell number name orders earnings created : Storage.Sample.customers.cell
      (Storage.Sample.customer number name orders earnings created) "customer_name" = .text name := by
    have hname : Storage.Sample.customers.column? "customer_name" = some { name := "customer_name", type := .text } := by
      decide +kernel
    rw [Storage.Schema.cell, hname]
    rfl
  obtain ⟨p, hp, -, hrecords⟩ := predicate_finds .mustNot hop hcolumn hv hzero
  have hfound : v.parameter.display.toList.map Storage.folded <:+: "A%_\\B".toList.map Storage.folded := by decide
  have hlost : ¬v.parameter.display.toList.map Storage.folded <:+: "AXYB".toList.map Storage.folded := by decide
  refine ⟨hop, hcolumn, hv, hzero, p, hp, fun number orders earnings created => ⟨?_, ?_⟩⟩
  · exact (hrecords _ _ _ (hcell ..) (by decide)).2 fun h => h hfound
  · exact fun h => (hrecords _ _ _ (hcell ..) (by decide)).1 h hlost

end Condition

end CriteriaStore
