import CriteriaStore.Storage.Evaluation

/-!
# Conditions under a valuation

A valuation is all that a condition can see of a record: the value in each column, the value that a bound scalar
has beside a column, how values compare and which values match a pattern. Nothing is known of the values except
that any two of them compare. `Valuation.holds` evaluates a condition with three truth values: a comparison with
nothing is unknown, `BETWEEN` is the conjunction of two comparisons, `IN` is the disjunction of equalities, a
negated form is the negation, and only a test for nothing is always decided.

The records of storage are one such valuation (`holds_ofRecord`).
-/

namespace CriteriaStore.Sql

open Storage (Truth Schema Record Cell)

/-- What a condition sees of a record; `none` stands for nothing. -/
structure Valuation (V : Type) where
  /-- The value in a column. -/
  value : String → Option V
  /-- The value of a bound scalar beside a column. -/
  parameter : String → Scalar → Option V
  order : V → V → Ordering
  /-- Whether a value matches a pattern. -/
  likes : String → V → Bool

namespace Valuation

variable {V : Type} (I : Valuation V)

/-- The value of a term beside a column. -/
def term (column : String) : Term → Option V
  | .null => none
  | .bound v => I.parameter column v

/-- A test on how two values compare; it is unknown when one of them is nothing. -/
def compare (test : Ordering → Bool) : Option V → Option V → Truth
  | some a, some b => .ofBool (test (I.order a b))
  | _, _ => .unknown

/-- A pattern on the value in a column; it is unknown when there is nothing. -/
def resembles (column pattern : String) : Truth :=
  match I.value column with
  | some a => .ofBool (I.likes pattern a)
  | none => .unknown

/-- The value of a predicate. -/
def holdsPredicate : Predicate → Truth
  | .isNull c => .ofBool (I.value c).isNone
  | .isNotNull c => .ofBool (I.value c).isSome
  | .compare c r v => I.compare (Storage.relates r) (I.value c) (I.term c v)
  | .like c negated pattern => (I.resembles c pattern).negateIf negated
  | .between c negated low high =>
    ((I.compare Ordering.isGE (I.value c) (I.term c low)).and
      (I.compare Ordering.isLE (I.value c) (I.term c high))).negateIf negated
  | .isIn c negated values =>
    (Truth.any (values.map fun v => I.compare Ordering.isEq (I.value c) (I.term c v))).negateIf negated

/-- The value of a condition: what is required, if anything, or one of the alternatives. -/
def holds (w : Where) : Truth :=
  if w.required.isEmpty then Truth.any (w.alternatives.map I.holdsPredicate)
  else (Truth.all (w.required.map I.holdsPredicate)).or (Truth.any (w.alternatives.map I.holdsPredicate))

/-- A condition is true when everything required is, and something is required, or when an alternative is. -/
theorem holds_eq_yes {w : Where} :
    I.holds w = .yes ↔
      (w.required ≠ [] ∧ ∀ p ∈ w.required, I.holdsPredicate p = .yes) ∨
        ∃ p ∈ w.alternatives, I.holdsPredicate p = .yes := by
  have hany : Truth.any (w.alternatives.map I.holdsPredicate) = .yes ↔
      ∃ p ∈ w.alternatives, I.holdsPredicate p = .yes := by
    rw [Truth.any_eq_yes, List.mem_map]
  unfold holds
  split
  · rename_i h
    rw [List.isEmpty_iff] at h
    simp [h, hany]
  · rename_i h
    rw [List.isEmpty_iff] at h
    rw [Truth.or_eq_yes, hany, Truth.all_eq_yes, List.forall_mem_map]
    simp [h]

/-! ### Records -/

/-- A cell as a value. -/
def ofCell (c : Cell) : Option Cell := if c.isNull then none else some c

/-- What a condition sees of a record of a table. -/
def ofRecord (s : Schema) (r : Record) : Valuation Cell where
  value column := ofCell (s.cell r column)
  parameter column v := ofCell (s.comparand column (.bound v))
  order := Cell.order
  likes pattern c := c.toText?.any (Storage.likeText pattern)

private theorem term_ofRecord (s : Schema) (r : Record) (column : String) (v : Term) :
    (ofRecord s r).term column v = ofCell (s.comparand column v) := by
  cases v with
  | bound v => rfl
  | null =>
    unfold term Schema.comparand
    cases h : s.column? column with
    | none => rfl
    | some c => cases ht : c.type <;> simp [Storage.ColumnType.comparand, ofCell, Cell.isNull, ht]

private theorem compare_ofRecord (s : Schema) (r : Record) (relation : Relation) (a b : Cell) :
    (ofRecord s r).compare (Storage.relates relation) (ofCell a) (ofCell b) = a.compare relation b := by
  unfold Cell.compare ofCell
  by_cases ha : a.isNull <;> by_cases hb : b.isNull <;> simp [ha, hb, compare, ofRecord]

private theorem resembles_ofRecord (s : Schema) (r : Record) (column pattern : String) :
    (ofRecord s r).resembles column pattern =
      match (s.cell r column).toText? with
      | some text => .ofBool (Storage.likeText pattern text)
      | none => .unknown := by
  unfold resembles
  simp only [ofRecord, ofCell]
  cases h : s.cell r column <;> simp [Cell.isNull, Cell.toText?]

theorem holdsPredicate_ofRecord (s : Schema) (r : Record) (p : Predicate) :
    (ofRecord s r).holdsPredicate p = Storage.holdsPredicate s r p := by
  have hvalue (c : String) : (ofRecord s r).value c = ofCell (s.cell r c) := rfl
  cases p with
  | isNull c =>
    simp only [holdsPredicate, Storage.holdsPredicate, hvalue, ofCell]
    by_cases h : (s.cell r c).isNull <;> simp [h]
  | isNotNull c =>
    simp only [holdsPredicate, Storage.holdsPredicate, hvalue, ofCell]
    by_cases h : (s.cell r c).isNull <;> simp [h]
  | compare c relation v =>
    simp only [holdsPredicate, Storage.holdsPredicate, hvalue, term_ofRecord, compare_ofRecord]
  | like c negated pattern =>
    simp only [holdsPredicate, Storage.holdsPredicate, resembles_ofRecord]
    cases (s.cell r c).toText? with
    | some text => rfl
    | none => cases negated <;> rfl
  | between c negated low high =>
    have hge := compare_ofRecord s r .ge (s.cell r c) (s.comparand c low)
    have hle := compare_ofRecord s r .le (s.cell r c) (s.comparand c high)
    simp only [holdsPredicate, Storage.holdsPredicate, hvalue, term_ofRecord, ← hge, ← hle]
    rfl
  | isIn c negated values =>
    have heq (v : Term) := compare_ofRecord s r .eq (s.cell r c) (s.comparand c v)
    simp only [holdsPredicate, Storage.holdsPredicate, hvalue, term_ofRecord, ← heq]
    rfl

/-- Storage evaluates a condition on a record as its valuation does. -/
theorem holds_ofRecord (s : Schema) (r : Record) (w : Where) :
    (ofRecord s r).holds w = Storage.holds s r w := by
  have hmap (ps : List Predicate) :
      ps.map (ofRecord s r).holdsPredicate = ps.map (Storage.holdsPredicate s r) :=
    List.map_congr_left fun p _ => holdsPredicate_ofRecord s r p
  unfold holds Storage.holds
  rw [hmap, hmap]
  cases w.required <;> rfl

end Valuation

end CriteriaStore.Sql
