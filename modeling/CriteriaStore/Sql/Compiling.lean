import CriteriaStore.Criteria.FieldSet
import CriteriaStore.Criteria.Filter
import CriteriaStore.Mapping.PropertyMap
import CriteriaStore.Sql.Statement
/-!
# Compiling criteria

Criteria resolved through a property map. One `Bindings` value goes with an operation: it names every value
bound so far, and keeps what was bound before a failure.

* A condition resolves its property first; then its operand must fit the applied operator.
* Texts in patterns stand for themselves (`escapePattern`).
* `must` and complemented `mustNot` conditions are required together, `should` conditions are alternatives.
-/

namespace CriteriaStore

/-- A value bound to a statement, with the name under which it is reported. -/
structure Binding where
  name : String
  value : Scalar
  deriving Repr, BEq

/-- The values bound so far, in order. -/
structure Bindings where
  entries : List Binding := []
  deriving Repr, BEq, Inhabited

namespace Bindings

/-- The name of the `n`-th bound value: its group, its polarity and its number. -/
def name (clause : Clause) (n : Nat) : String :=
  ":k" ++ (if clause.isDisjunctive then "o" else "a") ++ (if clause.isNegated then "n" else "p") ++ toString n

/-- Name one more value. -/
def record (clause : Clause) (b : Bindings) (v : Scalar) : Bindings :=
  ⟨b.entries ++ [⟨name clause (b.entries.length + 1), v⟩]⟩

/-- Name several values. -/
def recordAll (clause : Clause) (b : Bindings) (vs : List Scalar) : Bindings :=
  vs.foldl (record clause) b

/-- Name what a term binds. -/
def recordTerm (clause : Clause) (b : Bindings) (t : Sql.Term) : Bindings := b.recordAll clause t.parameters

/-- The values without their names. -/
def values (b : Bindings) : List Scalar := b.entries.map Binding.value

end Bindings

/-- A pattern character, with a backslash before one that would be special. -/
def escapePatternChar (c : Char) : List Char :=
  if c = '%' ∨ c = '_' ∨ c = '\\' then ['\\', c] else [c]

/-- The pattern that matches a text literally. -/
def escapePattern (s : List Char) : List Char := s.flatMap escapePatternChar

/-- Where a pattern may be continued by any text. -/
inductive Anchor where
  | anywhere
  | start
  | finish
  deriving Repr, DecidableEq

/-- The pattern that finds the text of a value at an anchor. -/
def Anchor.pattern (a : Anchor) (v : Scalar) : String :=
  let s := escapePattern v.parameter.display.toList
  String.ofList (match a with
    | anywhere => '%' :: s ++ ['%']
    | start => s ++ ['%']
    | finish => '%' :: s)

namespace Operator

/-- A pattern predicate; there is no pattern of nothing. -/
def matching? (column : String) (negated : Bool) (a : Anchor) : Scalar → Option Sql.Predicate
  | .null => none
  | v => some (.like column negated (a.pattern v))

/-- The predicate of an applied operator on a column, unless the operand does not fit. -/
def predicate? (op : Operator) (column : String) (operand : Operand) : Option Sql.Predicate :=
  match op, operand with
  | equals, .scalar .null => some (.isNull column)
  | notEqual, .scalar .null => some (.isNotNull column)
  | equals, .scalar v => some (.compare column .eq (.ofScalar v))
  | notEqual, .scalar v => some (.compare column .ne (.ofScalar v))
  | greaterThan, .scalar v => some (.compare column .gt (.ofScalar v))
  | greaterThanOrEqual, .scalar v => some (.compare column .ge (.ofScalar v))
  | lessThan, .scalar v => some (.compare column .lt (.ofScalar v))
  | lessThanOrEqual, .scalar v => some (.compare column .le (.ofScalar v))
  | contains, .scalar v => matching? column false .anywhere v
  | notContains, .scalar v => matching? column true .anywhere v
  | startsWith, .scalar v => matching? column false .start v
  | notStarts, .scalar v => matching? column true .start v
  | endsWith, .scalar v => matching? column false .finish v
  | notEnds, .scalar v => matching? column true .finish v
  | range, .pair low high => some (.between column false (.ofScalar low) (.ofScalar high))
  | notRange, .pair low high => some (.between column true (.ofScalar low) (.ofScalar high))
  | group, .set vs => some (.isIn column false (vs.map .ofScalar))
  | notGroup, .set vs => some (.isIn column true (vs.map .ofScalar))
  | empty, .none => some (.compare column .eq (.ofScalar (.text "")))
  | notEmpty, .none => some (.compare column .ne (.ofScalar (.text "")))
  | _, _ => none

end Operator

/-- The predicate of a condition under an applied operator. -/
def Condition.predicate (properties : PropertyMap) (op : Operator) (c : Condition) :
    Except CriteriaError Sql.Predicate :=
  match properties.column c.property with
  | .error e => .error e
  | .ok column =>
    match op.predicate? column c.operand with
    | some p => .ok p
    | none => .error (.operandMismatch op c.property)

namespace Filter

/-- The predicates of conditions in order, naming the values of each. The first condition that fails stops
the pass and keeps what was named before it. -/
def predicates (properties : PropertyMap) :
    List (Clause × Operator × Condition) → Bindings → Except CriteriaError (List (Clause × Sql.Predicate)) × Bindings
  | [], b => (.ok [], b)
  | (clause, op, c) :: rest, b =>
    match c.predicate properties (clause.applied op) with
    | .error e => (.error e, b)
    | .ok p =>
      match predicates properties rest (b.recordAll clause p.parameters) with
      | (.ok ps, b') => (.ok ((clause, p) :: ps), b')
      | (.error e, b') => (.error e, b')

/-- The condition of classified predicates: alternatives apart from the required ones. -/
def combine (ps : List (Clause × Sql.Predicate)) : Option Sql.Where :=
  Sql.Where.of? ((ps.filter fun p => !p.1.isDisjunctive).map Prod.snd)
    ((ps.filter fun p => p.1.isDisjunctive).map Prod.snd)

/-- The condition of a filter, none when nothing is asked for, and the values bound on the way. -/
def compile (properties : PropertyMap) (f : Filter) (b : Bindings) :
    Except CriteriaError (Option Sql.Where) × Bindings :=
  match predicates properties f.conditions b with
  | (.ok ps, b') => (.ok (combine ps), b')
  | (.error e, b') => (.error e, b')

end Filter

/-- The columns of a field set, in declaration order. -/
def PropertyMap.select (properties : PropertyMap) (fields : FieldSet) : Except CriteriaError (List String) :=
  match fields.names.find? fun p => !properties.contains p with
  | some p => .error (.unmappedProperty p)
  | none => .ok ((properties.entries.filter fun e => fields.contains e.1).map Prod.snd)

/-- The sort columns of a sort order. -/
def SortOrder.terms (properties : PropertyMap) (s : SortOrder) : Except CriteriaError (List Sql.OrderTerm) :=
  s.keys.mapM fun k => do
    let column ← PropertyMap.column properties k.property
    return ⟨column, k.direction⟩

/-- A selection sorted by further columns. Every property is resolved before the selection changes. -/
def Sql.Select.orderBy (q : Sql.Select) (properties : PropertyMap) (s : SortOrder) :
    Except CriteriaError Sql.Select :=
  match s.terms properties with
  | .ok terms => .ok { q with order := q.order ++ terms }
  | .error e => .error e

end CriteriaStore
