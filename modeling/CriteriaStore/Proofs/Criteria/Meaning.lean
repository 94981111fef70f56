import CriteriaStore.Proofs.Criteria.Binding
import CriteriaStore.Proofs.Sql.Valuation
import CriteriaStore.Proofs.Storage.Pattern
import CriteriaStore.Storage.Sample

/-!
# The meaning of filters

What a filter asks of a record, said without the condition that it is compiled to, its terms and its patterns: each
operator has a truth value under a valuation (`Operator.value`), and a filter is met when its required branches are or
when one alternative is (`Filter.Meets`). Operands have values of their own (`Valuation.operand`), nothing has none, and
texts are looked for as parts of other texts (`Valuation.shows`), in whichever way a text is found in a value.

* An operator and its complement are opposite in the sense of three truth values (`value_complement`), so a
  condition to be failed is false, and not merely unknown, when its complement is true.
* Each applied operator is compiled to a predicate of the same value (`holdsPredicate_of_predicate?`).
* A filter without effective conditions compiles to no condition, and any other one to a condition that is true
  exactly where the filter is met (`compile_meaning`).
-/

namespace CriteriaStore

open Storage (Truth Cell Like)
open Sql (Valuation)

/-! ### Operands that fit -/

/-- The shape of an operand. -/
def Operand.shape : Operand → Shape
  | none => .nullary
  | scalar _ => .scalar
  | pair _ _ => .pair
  | set _ => .set

namespace Operator

/-- Whether the operator looks for a text inside another one. -/
def isTextual : Operator → Bool
  | contains | notContains | startsWith | notStarts | endsWith | notEnds => true
  | _ => false

/-- Of an operator that looks for a text, whether it asks that the text is missing, and at which anchor it looks. -/
def seeking? : Operator → Option (Bool × Anchor)
  | contains => some (false, .anywhere)
  | notContains => some (true, .anywhere)
  | startsWith => some (false, .start)
  | notStarts => some (true, .start)
  | endsWith => some (false, .finish)
  | notEnds => some (true, .finish)
  | _ => none

theorem exists_seeking {op : Operator} (h : op.isTextual) : ∃ negated a, op.seeking? = some (negated, a) := by
  cases op with
  | contains | notContains | startsWith | notStarts | endsWith | notEnds => exact ⟨_, _, rfl⟩
  | _ => cases h

theorem predicate?_of_seeking {op : Operator} {negated : Bool} {a : Anchor} (h : op.seeking? = some (negated, a))
    (column : String) (v : Scalar) : op.predicate? column (.scalar v) = matching? column negated a v := by
  cases op with
  | contains | notContains | startsWith | notStarts | endsWith | notEnds =>
    cases h
    rfl
  | _ => cases h

/-- Whether an operand is well shaped for the operator; no text is looked for when there is nothing. -/
def Accepts (op : Operator) (operand : Operand) : Prop :=
  operand.shape = op.shape ∧ (op.isTextual → operand ≠ .scalar .null)

theorem isTextual_complement (op : Operator) : op.complement.isTextual = op.isTextual := by
  cases op <;> rfl

theorem accepts_complement {op : Operator} {operand : Operand} :
    op.complement.Accepts operand ↔ op.Accepts operand := by
  unfold Accepts
  rw [shape_complement]
  cases op <;> rfl

private theorem matching?_isSome {column : String} {negated : Bool} {a : Anchor} {v : Scalar} :
    (matching? column negated a v).isSome ↔ v ≠ .null := by
  cases v <;> simp [matching?]

/-- A predicate comes about exactly for the operands that fit. -/
theorem predicate?_isSome {op : Operator} {column : String} {operand : Operand} :
    (op.predicate? column operand).isSome ↔ op.Accepts operand := by
  cases operand with
  | none => cases op <;> simp [predicate?, Accepts, Operand.shape, shape, isTextual]
  | pair low high => cases op <;> simp [predicate?, Accepts, Operand.shape, shape, isTextual]
  | set values => cases op <;> simp [predicate?, Accepts, Operand.shape, shape, isTextual]
  | scalar v =>
    have hnull : (Operand.scalar v ≠ .scalar .null) ↔ v ≠ .null := by simp
    cases op
    case contains | notContains | startsWith | notStarts | endsWith | notEnds =>
      simp [predicate?, Accepts, Operand.shape, shape, isTextual, matching?_isSome]
    all_goals cases v <;> simp [predicate?, Accepts, Operand.shape, shape, isTextual]

end Operator

/-! ### Values of operators and filters -/

/-- The text of an operand that is looked for; nothing has none, and a truth value is written as a number. -/
def Scalar.sought? : Scalar → Option String
  | null => none
  | bool b => some (if b then "1" else "0")
  | v => some v.display

/-- How texts are found in values: whether a value has a text in it at an anchor. -/
abbrev Search (V : Type) := Anchor → String → V → Bool

/-- Texts are found as parts of the texts of values, apart from how characters fold. -/
def Search.byText {V α : Type} [DecidableEq α] (text : V → List Char) (fold : Char → α) : Search V :=
  fun a s x => a.Finds fold s.toList (text x)

/-- Texts are found in cells as storage finds them. -/
def Search.ofCells : Search Cell := fun a s c => c.toText?.any (a.finds s)

namespace Sql.Valuation

variable {V : Type} (I : Valuation V) (find : Search V)

/-- The value of an operand beside a column; nothing has none, and a truth value counts as a number. -/
def operand (column : String) : Scalar → Option V
  | .null => none
  | .bool b => I.parameter column (.int (if b then 1 else 0))
  | v => I.parameter column v

/-- A test on how the value in a column compares with an operand. -/
def relates (column : String) (test : Ordering → Bool) (v : Scalar) : Truth :=
  I.compare test (I.value column) (I.operand column v)

/-- Whether there is nothing in a column. -/
def lacks (column : String) : Truth := .ofBool (I.value column).isNone

/-- Whether the value in a column has the text of an operand in it, at an anchor; it is unknown when there is nothing. -/
def shows (column : String) (a : Anchor) (v : Scalar) : Truth :=
  match I.value column, v.sought? with
  | some x, some s => .ofBool (find a s x)
  | _, _ => .unknown

/-- Whether the values in columns match a pattern when their texts are like it, as it is written. -/
def MatchesBy {α : Type} (text : V → List Char) (fold : Char → α) : Prop :=
  ∀ column x, I.value column = some x → ∀ pattern, I.likes pattern x ↔ Like fold pattern.toList (text x)

end Sql.Valuation

section Value

variable {V : Type} (I : Valuation V) (find : Search V)

/-- The value of an operator on a column, as it was declared. Equality with nothing asks whether there is nothing,
and an operand that does not fit decides nothing. -/
def Operator.value (column : String) : Operator → Operand → Truth
  | equals, .scalar .null => I.lacks column
  | equals, .scalar v => I.relates column Ordering.isEq v
  | notEqual, .scalar .null => (I.lacks column).not
  | notEqual, .scalar v => I.relates column Ordering.isNe v
  | greaterThan, .scalar v => I.relates column Ordering.isGT v
  | greaterThanOrEqual, .scalar v => I.relates column Ordering.isGE v
  | lessThan, .scalar v => I.relates column Ordering.isLT v
  | lessThanOrEqual, .scalar v => I.relates column Ordering.isLE v
  | contains, .scalar v => I.shows find column .anywhere v
  | notContains, .scalar v => (I.shows find column .anywhere v).not
  | startsWith, .scalar v => I.shows find column .start v
  | notStarts, .scalar v => (I.shows find column .start v).not
  | endsWith, .scalar v => I.shows find column .finish v
  | notEnds, .scalar v => (I.shows find column .finish v).not
  | range, .pair low high => (I.relates column Ordering.isGE low).and (I.relates column Ordering.isLE high)
  | notRange, .pair low high => ((I.relates column Ordering.isGE low).and (I.relates column Ordering.isLE high)).not
  | group, .set values => Truth.any (values.map (I.relates column Ordering.isEq))
  | notGroup, .set values => (Truth.any (values.map (I.relates column Ordering.isEq))).not
  | empty, .none => I.relates column Ordering.isEq (.text "")
  | notEmpty, .none => I.relates column Ordering.isNe (.text "")
  | _, _ => .unknown

/-- The value of a declared condition; without a column for its property it decides nothing. -/
def Condition.value (properties : PropertyMap) (op : Operator) (c : Condition) : Truth :=
  match properties.get? c.property with
  | some column => op.value I find column c.operand
  | none => .unknown

/-- Whether a filter is met: the conditions of `must` are true and those of `mustNot` false, and there is one of
them, or a condition of `should` is true. -/
def Filter.Meets (f : Filter) (properties : PropertyMap) : Prop :=
  ((f.must.conditions ≠ [] ∨ f.mustNot.conditions ≠ []) ∧
      (∀ x ∈ f.must.conditions, x.2.value I find properties x.1 = .yes) ∧
      ∀ x ∈ f.mustNot.conditions, x.2.value I find properties x.1 = .no) ∨
    ∃ x ∈ f.should.conditions, x.2.value I find properties x.1 = .yes

instance (f : Filter) (properties : PropertyMap) : Decidable (f.Meets I find properties) :=
  inferInstanceAs (Decidable (_ ∨ _))

end Value

/-- Whether a condition is mapped and well shaped. -/
def Condition.Fits (properties : PropertyMap) (op : Operator) (c : Condition) : Prop :=
  (properties.get? c.property).isSome ∧ op.Accepts c.operand

/-! ### Complements -/

section Complement

variable {V : Type} (I : Valuation V) (find : Search V)

private theorem relates_not {column : String} {test opposite : Ordering → Bool} {v : Scalar}
    (h : ∀ o, opposite o = !test o) : I.relates column opposite v = (I.relates column test v).not := by
  unfold Valuation.relates
  cases I.value column with
  | none => rfl
  | some a =>
    cases I.operand column v with
    | none => rfl
    | some b =>
      show Truth.ofBool (opposite (I.order a b)) = (Truth.ofBool (test (I.order a b))).not
      rw [h]
      cases test (I.order a b) <;> rfl

/-- The complement of an operator has the opposite value, whatever the column holds. -/
theorem Operator.value_complement (op : Operator) (column : String) (operand : Operand) :
    op.complement.value I find column operand = (op.value I find column operand).not := by
  have hne (v : Scalar) : I.relates column Ordering.isNe v = (I.relates column Ordering.isEq v).not :=
    relates_not I fun o => by cases o <;> rfl
  have hle (v : Scalar) : I.relates column Ordering.isLE v = (I.relates column Ordering.isGT v).not :=
    relates_not I fun o => by cases o <;> rfl
  have hlt (v : Scalar) : I.relates column Ordering.isLT v = (I.relates column Ordering.isGE v).not :=
    relates_not I fun o => by cases o <;> rfl
  have hunknown : Truth.unknown.not = .unknown := rfl
  -- an operand that does not fit decides nothing on either side
  cases operand with
  | none => cases op <;> simp [complement, value, hne, hunknown]
  | pair low high => cases op <;> simp [complement, value, hunknown]
  | set values => cases op <;> simp [complement, value, hunknown]
  | scalar v =>
    cases op
    case equals | notEqual => cases v <;> simp [complement, value, hne]
    all_goals simp [complement, value, hle, hlt, hunknown]

end Complement

/-! ### Terms and patterns -/

section Compilation

variable {V : Type} {I : Valuation V} {find : Search V} {column : String} {v : Scalar}

/-- The term of an operand has the value of the operand. -/
private theorem term_ofScalar (I : Valuation V) (column : String) (v : Scalar) :
    I.term column (.ofScalar v) = I.operand column v := by
  cases v <;> rfl

private theorem display_parameter {s : String} (h : v.sought? = some s) : v.parameter.display = s := by
  cases v with
  | null => cases h
  | bool b =>
    obtain rfl := Option.some.inj h
    cases b <;> decide +kernel
  | _ => exact Option.some.inj h

/-- Whether the pattern of an operand at an anchor matches just the values in which the text of the operand is found. -/
private def Agrees (I : Valuation V) (find : Search V) : Prop :=
  ∀ column x, I.value column = some x → ∀ (v : Scalar) s, v.sought? = some s → ∀ a : Anchor,
    I.likes (a.pattern v) x = find a s x

private theorem agrees_of_matchesBy {α : Type} [DecidableEq α] {text : V → List Char} {fold : Char → α}
    (h : I.MatchesBy text fold) : Agrees I (.byText text fold) := by
  intro column x hx v s hs a
  rw [Bool.eq_iff_iff, h column x hx, a.like_pattern, display_parameter hs]
  exact decide_eq_true_iff.symm

private theorem agrees_ofRecord (s : Storage.Schema) (r : Storage.Record) : Agrees (.ofRecord s r) .ofCells := by
  intro column x hx v t ht a
  show x.toText?.any (Storage.likeText (a.pattern v)) = x.toText?.any (a.finds t)
  have hpattern : Storage.likeText (a.pattern v) = a.finds t := by
    funext text
    rw [a.likeText_pattern, display_parameter ht]
  rw [hpattern]

/-- The pattern of an operand asks whether the text of the operand is found. -/
private theorem resembles_pattern (h : Agrees I find) (hv : v ≠ .null) (a : Anchor) :
    I.resembles column (a.pattern v) = I.shows find column a v := by
  obtain ⟨s, hs⟩ : ∃ s, v.sought? = some s := by
    cases v with
    | null => exact absurd rfl hv
    | _ => exact ⟨_, rfl⟩
  unfold Valuation.resembles Valuation.shows
  rw [hs]
  cases hx : I.value column with
  | none => rfl
  | some x => simp only [h column x hx v s hs a]

namespace Operator

variable {op : Operator} {operand : Operand} {p : Sql.Predicate}

private theorem value_of_seeking {negated : Bool} {a : Anchor} (h : op.seeking? = some (negated, a)) :
    op.value I find column (.scalar v) = (I.shows find column a v).negateIf negated := by
  cases op with
  | contains | notContains | startsWith | notStarts | endsWith | notEnds =>
    cases h
    rfl
  | _ => cases h

private theorem holdsPredicate_of_textual (hop : op.isTextual) (h : op.predicate? column (.scalar v) = some p)
    (hfind : Agrees I find) : I.holdsPredicate p = op.value I find column (.scalar v) := by
  obtain ⟨negated, a, hseeking⟩ := exists_seeking hop
  rw [predicate?_of_seeking hseeking] at h
  have hv : v ≠ .null := matching?_isSome.1 (Option.isSome_of_eq_some h)
  have hp : p = .like column negated (a.pattern v) := by
    cases v with
    | null => exact absurd rfl hv
    | _ => exact (Option.some.inj h).symm
  rw [hp, value_of_seeking hseeking, Valuation.holdsPredicate, resembles_pattern hfind hv]

/-- A predicate has the value of the operator that it comes from. -/
private theorem holdsPredicate_of_predicate? (h : op.predicate? column operand = some p) (hfind : Agrees I find) :
    I.holdsPredicate p = op.value I find column operand := by
  have hterm := term_ofScalar I column
  cases operand with
  | none =>
    cases op
    case empty | notEmpty =>
      obtain rfl := Option.some.inj h
      rfl
    all_goals cases h
  | pair low high =>
    cases op
    case range | notRange =>
      obtain rfl := Option.some.inj h
      simp only [Valuation.holdsPredicate, hterm]
      rfl
    all_goals cases h
  | set values =>
    cases op
    case group | notGroup =>
      obtain rfl := Option.some.inj h
      simp only [Valuation.holdsPredicate, List.map_map, Function.comp_def, hterm]
      rfl
    all_goals cases h
  | scalar v =>
    cases op
    case range | notRange | group | notGroup | empty | notEmpty => simp [predicate?] at h
    case contains | notContains | startsWith | notStarts | endsWith | notEnds =>
      exact holdsPredicate_of_textual rfl h hfind
    -- equality with nothing is a test of its own
    case equals | notEqual =>
      cases v <;> obtain rfl := Option.some.inj h
      case null =>
        first
          | rfl
          | show Truth.ofBool (I.value column).isSome = (Truth.ofBool (I.value column).isNone).not
            cases I.value column <;> rfl
      all_goals
        simp only [Valuation.holdsPredicate, hterm]
        rfl
    all_goals
      have hp : _ = p := Option.some.inj h
      rw [← hp, Valuation.holdsPredicate, hterm]
      rfl

end Operator

end Compilation

namespace Filter

variable {properties : PropertyMap}

theorem mem_conditions {f : Filter} {clause : Clause} {x : Operator × Condition} :
    (clause, x) ∈ f.conditions ↔ x ∈ (f.branch clause).conditions := by
  unfold conditions
  rw [List.mem_flatMap]
  constructor
  · rintro ⟨clause', -, h⟩
    obtain ⟨y, hy, he⟩ := List.mem_map.1 h
    obtain ⟨rfl, rfl⟩ := Prod.mk.inj he
    exact hy
  · intro h
    exact ⟨clause, by cases clause <;> decide, List.mem_map_of_mem h⟩

/-- A condition that fits is translated. -/
theorem exists_translate {x : Clause × Operator × Condition} (h : x.2.2.Fits properties x.2.1) :
    ∃ q, translate properties x = .ok q := by
  obtain ⟨hmapped, haccepts⟩ := h
  obtain ⟨column, hcolumn⟩ := Option.isSome_iff_exists.1 hmapped
  have hp : ((x.1.applied x.2.1).predicate? column x.2.2.operand).isSome := by
    rw [Operator.predicate?_isSome]
    unfold Clause.applied
    split
    · exact Operator.accepts_complement.2 haccepts
    · exact haccepts
  obtain ⟨p, hp⟩ := Option.isSome_iff_exists.1 hp
  refine ⟨(x.1, p), translate_eq_ok.2 ⟨rfl, Condition.predicate_eq_ok.2 ⟨column, ?_, hp⟩⟩⟩
  simp only [PropertyMap.column, hcolumn]

/-- Conditions that fit are translated one by one. -/
theorem exists_mapM_translate {cs : List (Clause × Operator × Condition)} (h : ∀ x ∈ cs, x.2.2.Fits properties x.2.1) :
    ∃ ps, cs.mapM (translate properties) = .ok ps ∧ ∀ x ∈ cs, ∃ q ∈ ps, translate properties x = .ok q := by
  induction cs with
  | nil => exact ⟨[], rfl, List.forall_mem_nil _⟩
  | cons x rest ih =>
    obtain ⟨hx, hrest⟩ := List.forall_mem_cons.1 h
    obtain ⟨q, hq⟩ := exists_translate hx
    obtain ⟨ps, hps, hall⟩ := ih hrest
    refine ⟨q :: ps, ?_, List.forall_mem_cons.2 ⟨⟨q, List.mem_cons_self, hq⟩, fun y hy => ?_⟩⟩
    · rw [List.mapM_cons, hq, hps]
      rfl
    · obtain ⟨q', hq', hy'⟩ := hall y hy
      exact ⟨q', List.mem_cons_of_mem _ hq', hy'⟩

/-! ### The condition of a filter -/

/-- The predicates on one side of a condition: of the clauses for which all have to hold, or of the other one. -/
private def side (disjunctive : Bool) (ps : List (Clause × Sql.Predicate)) : List Sql.Predicate :=
  (ps.filter fun p => p.1.isDisjunctive == disjunctive).map Prod.snd

private theorem exists_combine {ps : List (Clause × Sql.Predicate)} (h : ps ≠ []) :
    ∃ w, combine ps = some w ∧ w.required = side false ps ∧ w.alternatives = side true ps := by
  have hsides : combine ps = Sql.Where.of? (side false ps) (side true ps) := by
    unfold combine side
    simp
  cases hw : combine ps with
  | none => exact absurd (eq_nil_of_combine_eq_none hw) h
  | some w =>
    refine ⟨w, rfl, ?_⟩
    rw [hsides] at hw
    revert hw
    generalize side false ps = required
    generalize side true ps = alternatives
    cases required <;> cases alternatives <;> rintro ⟨⟩ <;> exact ⟨rfl, rfl⟩

section Meaning

variable {V : Type} {I : Valuation V} {find : Search V}

/-- A translated condition has the value of its applied operator. -/
private theorem holdsPredicate_of_translate {x : Clause × Operator × Condition} {q : Clause × Sql.Predicate}
    (h : translate properties x = .ok q) (hfind : Agrees I find) :
    I.holdsPredicate q.2 = x.2.2.value I find properties (x.1.applied x.2.1) := by
  obtain ⟨column, hcolumn, hp⟩ := Condition.predicate_eq_ok.1 (translate_eq_ok.1 h).2
  have hget : properties.get? x.2.2.property = some column := by
    unfold PropertyMap.column at hcolumn
    cases hcase : properties.get? x.2.2.property <;> simp_all
  unfold Condition.value
  rw [hget]
  exact Operator.holdsPredicate_of_predicate? hp hfind

/-- A condition to be failed is false exactly when its complement is true. -/
private theorem value_applied_mustNot {op : Operator} {c : Condition} :
    c.value I find properties (Clause.mustNot.applied op) = .yes ↔ c.value I find properties op = .no := by
  show c.value I find properties op.complement = .yes ↔ _
  unfold Condition.value
  cases properties.get? c.property with
  | none => simp
  | some column =>
    simp only [Operator.value_complement]
    cases op.value I find column c.operand <;> simp [Truth.not]

/-! ### Both sides of a condition -/

section Side

variable {cs : List (Clause × Operator × Condition)} {ps : List (Clause × Sql.Predicate)} {disjunctive : Bool}

private theorem mem_side {p : Sql.Predicate} :
    p ∈ side disjunctive ps ↔ ∃ clause, clause.isDisjunctive = disjunctive ∧ (clause, p) ∈ ps := by
  unfold side
  simp [and_comm]

/-- What some predicate on one side is, some condition of that side is. -/
private theorem exists_side (hps : cs.mapM (translate properties) = .ok ps)
    (hall : ∀ x ∈ cs, ∃ q ∈ ps, translate properties x = .ok q) {holds : Sql.Predicate → Prop}
    {meets : Clause × Operator × Condition → Prop}
    (h : ∀ x q, translate properties x = .ok q → (holds q.2 ↔ meets x)) :
    (∃ p ∈ side disjunctive ps, holds p) ↔ ∃ x ∈ cs, x.1.isDisjunctive = disjunctive ∧ meets x := by
  constructor
  · rintro ⟨p, hp, hholds⟩
    obtain ⟨clause, hclause, hmem⟩ := mem_side.1 hp
    obtain ⟨x, hx, hq⟩ := exists_of_mem_mapM_ok hps hmem
    obtain rfl : clause = x.1 := (translate_eq_ok.1 hq).1
    exact ⟨x, hx, hclause, (h x _ hq).1 hholds⟩
  · rintro ⟨x, hx, hclause, hmeets⟩
    obtain ⟨q, hmem, hq⟩ := hall x hx
    refine ⟨q.2, mem_side.2 ⟨q.1, ?_, hmem⟩, (h x q hq).2 hmeets⟩
    rw [(translate_eq_ok.1 hq).1, hclause]

private theorem side_ne_nil (hps : cs.mapM (translate properties) = .ok ps)
    (hall : ∀ x ∈ cs, ∃ q ∈ ps, translate properties x = .ok q) :
    side disjunctive ps ≠ [] ↔ ∃ x ∈ cs, x.1.isDisjunctive = disjunctive := by
  have hside : (∃ p ∈ side disjunctive ps, True) ↔ ∃ x ∈ cs, x.1.isDisjunctive = disjunctive ∧ True :=
    exists_side hps hall fun _ _ _ => Iff.rfl
  simpa [List.ne_nil_iff_exists_cons, List.eq_nil_iff_forall_not_mem] using hside

private theorem forall_side (hps : cs.mapM (translate properties) = .ok ps)
    (hall : ∀ x ∈ cs, ∃ q ∈ ps, translate properties x = .ok q) {holds : Sql.Predicate → Prop}
    {meets : Clause × Operator × Condition → Prop}
    (h : ∀ x q, translate properties x = .ok q → (holds q.2 ↔ meets x)) :
    (∀ p ∈ side disjunctive ps, holds p) ↔ ∀ x ∈ cs, x.1.isDisjunctive = disjunctive → meets x := by
  have hside : (∃ p ∈ side disjunctive ps, ¬holds p) ↔ ∃ x ∈ cs, x.1.isDisjunctive = disjunctive ∧ ¬meets x :=
    exists_side hps hall fun x q hq => not_congr (h x q hq)
  simpa using not_congr hside

end Side

/-! ### The conditions of a filter on each side -/

section Branches

variable {f : Filter}

private theorem exists_required :
    (∃ x ∈ f.conditions, x.1.isDisjunctive = false) ↔ f.must.conditions ≠ [] ∨ f.mustNot.conditions ≠ [] := by
  constructor
  · rintro ⟨⟨clause, x⟩, hx, hd⟩
    have hmem := mem_conditions.1 hx
    cases clause with
    | must => exact Or.inl (List.ne_nil_of_mem hmem)
    | mustNot => exact Or.inr (List.ne_nil_of_mem hmem)
    | should => simp [Clause.isDisjunctive] at hd
  · rintro (hne | hne)
    · obtain ⟨x, hx⟩ := List.exists_mem_of_ne_nil _ hne
      exact ⟨(.must, x), mem_conditions.2 hx, rfl⟩
    · obtain ⟨x, hx⟩ := List.exists_mem_of_ne_nil _ hne
      exact ⟨(.mustNot, x), mem_conditions.2 hx, rfl⟩

private theorem forall_required :
    (∀ x ∈ f.conditions, x.1.isDisjunctive = false →
        x.2.2.value I find properties (x.1.applied x.2.1) = .yes) ↔
      (∀ x ∈ f.must.conditions, x.2.value I find properties x.1 = .yes) ∧
        ∀ x ∈ f.mustNot.conditions, x.2.value I find properties x.1 = .no := by
  constructor
  · intro hall
    refine ⟨fun x hx => hall (.must, x) (mem_conditions.2 hx) rfl, fun x hx => ?_⟩
    exact value_applied_mustNot.1 (hall (.mustNot, x) (mem_conditions.2 hx) rfl)
  · rintro ⟨hmust, hnot⟩ ⟨clause, x⟩ hx hd
    have hmem := mem_conditions.1 hx
    cases clause with
    | must => exact hmust x hmem
    | mustNot => exact value_applied_mustNot.2 (hnot x hmem)
    | should => simp [Clause.isDisjunctive] at hd

private theorem exists_alternative :
    (∃ x ∈ f.conditions, x.1.isDisjunctive = true ∧
        x.2.2.value I find properties (x.1.applied x.2.1) = .yes) ↔
      ∃ x ∈ f.should.conditions, x.2.value I find properties x.1 = .yes := by
  constructor
  · rintro ⟨⟨clause, x⟩, hx, hd, hyes⟩
    cases clause with
    | should => exact ⟨x, mem_conditions.1 hx, hyes⟩
    | _ => simp [Clause.isDisjunctive] at hd
  · rintro ⟨x, hx, hyes⟩
    exact ⟨(.should, x), mem_conditions.2 hx, rfl, hyes⟩

private theorem holds_iff_meets (hfind : Agrees I find) {ps : List (Clause × Sql.Predicate)}
    (hps : f.conditions.mapM (translate properties) = .ok ps)
    (hall : ∀ x ∈ f.conditions, ∃ q ∈ ps, translate properties x = .ok q) {w : Sql.Where}
    (hr : w.required = side false ps) (ha : w.alternatives = side true ps) :
    I.holds w = .yes ↔ f.Meets I find properties := by
  have hvalue x q (hq : translate properties x = .ok q) : I.holdsPredicate q.2 = .yes ↔
      x.2.2.value I find properties (x.1.applied x.2.1) = .yes := by
    rw [holdsPredicate_of_translate hq hfind]
  rw [Valuation.holds_eq_yes, hr, ha, side_ne_nil hps hall, forall_side hps hall hvalue,
    exists_side hps hall hvalue, exists_required, forall_required, exists_alternative]
  rfl

end Branches

end Meaning

/-- A filter whose effective conditions are mapped and well shaped compiles, whatever was bound before: to no
condition when nothing is asked for, and else to a condition that is true exactly where the filter is met, under a
valuation that matches patterns as they are written, by any text of values and any folding, and of a record in
storage. -/
theorem compile_meaning (properties : PropertyMap) (f : Filter) (b : Bindings)
    (h : ∀ x ∈ f.conditions, x.2.2.Fits properties x.2.1) :
    ∃ condition b', f.compile properties b = (.ok condition, b') ∧
      (f.isEmpty → condition = none) ∧
      (¬f.isEmpty → ∃ w, condition = some w ∧
        (∀ {V α : Type} [DecidableEq α] (I : Valuation V) (text : V → List Char) (fold : Char → α),
          I.MatchesBy text fold → (I.holds w = .yes ↔ f.Meets I (.byText text fold) properties)) ∧
        ∀ s r, Storage.holds s r w = .yes ↔ f.Meets (.ofRecord s r) .ofCells properties) := by
  obtain ⟨ps, hps, hall⟩ := exists_mapM_translate h
  refine ⟨_, _, compile_of_ok hps b, fun hempty => ?_, fun hne => ?_⟩
  · rw [isEmpty, List.isEmpty_iff] at hempty
    rw [hempty] at hps
    obtain rfl : [] = ps := Except.ok.inj hps
    rfl
  · rw [isEmpty, List.isEmpty_iff] at hne
    have hpsne : ps ≠ [] := by
      obtain ⟨x, hx⟩ := List.exists_mem_of_ne_nil _ hne
      obtain ⟨q, hq, -⟩ := hall x hx
      exact List.ne_nil_of_mem hq
    obtain ⟨w, hw, hr, ha⟩ := exists_combine hpsne
    refine ⟨w, hw, fun I text fold hmatches => ?_, fun s r => ?_⟩
    · exact holds_iff_meets (agrees_of_matchesBy hmatches) hps hall hr ha
    · rw [← Valuation.holds_ofRecord]
      exact holds_iff_meets (agrees_ofRecord s r) hps hall hr ha

/-- Conditions in every branch, one of them on nothing. A named user with another number than 3 or 5 meets the required
ones, and one without number does not, since it is not known to be another one; but the alternative is met by a name with
`100%` in it, and not by one that would only be like it. -/
theorem compile_meaning_of_branches :
    let properties : PropertyMap := OrderedMap.ofList [("name", "username"), ("orders", "is_active")]
    let f := ((Filter.empty.push .must .notEqual ⟨"name", .scalar .null⟩).push .mustNot .group
      ⟨"orders", .set [.int 3, .int 5]⟩).push .should .contains ⟨"name", .scalar (.text "100%")⟩
    let user (name : String) (orders : Cell) : Storage.Record :=
      OrderedMap.ofList [("user_id", .int 1), ("username", .text name), ("is_active", orders)]
    (∀ x ∈ f.conditions, x.2.2.Fits properties x.2.1) ∧ ¬f.isEmpty ∧
      ∃ w b', f.compile properties {} = (.ok (some w), b') ∧
        Storage.holds Storage.Sample.users (user "Ken" (.int 4)) w = .yes ∧
        Storage.holds Storage.Sample.users (user "Ken" .null) w ≠ .yes ∧
        Storage.holds Storage.Sample.users (user "rated 100%" .null) w = .yes ∧
        Storage.holds Storage.Sample.users (user "rated 1000" .null) w ≠ .yes := by
  intro properties f user
  have hfits : ∀ x ∈ f.conditions, x.2.2.Fits properties x.2.1 := by
    show ∀ x ∈ [(Clause.must, Operator.notEqual, Condition.mk "name" (.scalar .null)),
      (Clause.mustNot, Operator.group, Condition.mk "orders" (.set [.int 3, .int 5])),
      (Clause.should, Operator.contains, Condition.mk "name" (.scalar (.text "100%")))],
      x.2.2.Fits properties x.2.1
    rw [List.forall_mem_cons, List.forall_mem_cons, List.forall_mem_singleton]
    refine ⟨⟨by decide, rfl, ?_⟩, ⟨by decide, rfl, ?_⟩, ⟨by decide, rfl, ?_⟩⟩ <;> simp [Operator.isTextual]
  have hne : ¬f.isEmpty := by
    show ¬false = true
    decide
  obtain ⟨condition, b', hcompile, -, hmeaning⟩ := compile_meaning properties f {} hfits
  obtain ⟨w, rfl, -, hrecords⟩ := hmeaning hne
  refine ⟨hfits, hne, w, b', hcompile, (hrecords _ _).2 ?_, fun h => ?_, (hrecords _ _).2 ?_, fun h => ?_⟩
  · decide +kernel
  · exact absurd ((hrecords _ _).1 h) (by decide +kernel)
  · decide +kernel
  · exact absurd ((hrecords _ _).1 h) (by decide +kernel)

end Filter

end CriteriaStore
