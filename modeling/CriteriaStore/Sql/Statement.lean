import CriteriaStore.Criteria.SortOrder
import CriteriaStore.Scalar
/-!
# Statements

The statements that repositories build, as data. A condition is kept in the one shape that criteria need:
predicates that are required together, and predicates of which one is enough.
-/

namespace CriteriaStore.Sql

/-- A value in a statement: the word `NULL`, or a bound parameter. -/
inductive Term where
  | null
  | bound (v : Scalar)
  deriving Repr, BEq, Inhabited

namespace Term

/-- The term of a scalar: truth values are bound as integers, and nothing is written out, since it fits a
column of any type. -/
def ofScalar (v : Scalar) : Term :=
  match v.parameter with
  | .null => null
  | w => bound w

/-- The bound values of a term. -/
def parameters : Term → List Scalar
  | null => []
  | bound v => [v]

end Term

/-- The ways to compare a column with one value. -/
inductive Relation where
  | eq
  | ne
  | gt
  | ge
  | lt
  | le
  deriving Repr, DecidableEq

/-- A condition on one column. -/
inductive Predicate where
  | isNull (column : String)
  | isNotNull (column : String)
  | compare (column : String) (relation : Relation) (value : Term)
  /-- A pattern in which `%`, `_` and the escaping backslash are special. -/
  | like (column : String) (negated : Bool) (pattern : String)
  | between (column : String) (negated : Bool) (low high : Term)
  | isIn (column : String) (negated : Bool) (values : List Term)
  deriving Repr, BEq

/-- The bound values of a predicate, from left to right. -/
def Predicate.parameters : Predicate → List Scalar
  | isNull _ => []
  | isNotNull _ => []
  | compare _ _ v => v.parameters
  | like _ _ pattern => [.text pattern]
  | between _ _ low high => low.parameters ++ high.parameters
  | isIn _ _ values => values.flatMap Term.parameters

/-- The column of a predicate. -/
def Predicate.column : Predicate → String
  | isNull c | isNotNull c | compare c _ _ | like c _ _ | between c _ _ _ | isIn c _ _ => c

/-- A condition on a record: all of `required` holds (and there is something required), or one of
`alternatives` does. -/
structure Where where
  required : List Predicate
  alternatives : List Predicate
  nonempty : required ≠ [] ∨ alternatives ≠ []

namespace Where

/-- The condition that one predicate holds. -/
def single (p : Predicate) : Where := ⟨[p], [], Or.inl (by simp)⟩

/-- The condition of two predicate lists, if there is any predicate. -/
def of? : List Predicate → List Predicate → Option Where
  | [], [] => none
  | p :: ps, qs => some ⟨p :: ps, qs, Or.inl (by simp)⟩
  | [], q :: qs => some ⟨[], q :: qs, Or.inr (by simp)⟩

/-- The bound values of a condition, from left to right. -/
def parameters (w : Where) : List Scalar :=
  w.required.flatMap Predicate.parameters ++ w.alternatives.flatMap Predicate.parameters

/-- The columns of a condition, from left to right. -/
def columns (w : Where) : List String := (w.required ++ w.alternatives).map Predicate.column

end Where

/-- The column list of a selection. -/
inductive Projection where
  | all
  | columns (names : List String)
  /-- Different rows only; no names stand for every column. -/
  | distinct (names : List String)
  deriving Repr, DecidableEq

/-- The columns that a selection names. -/
def Projection.names : Projection → List String
  | all => []
  | columns names | distinct names => names

/-- A column to sort by. -/
structure OrderTerm where
  column : String
  direction : Direction
  deriving Repr, DecidableEq

/-- A selection from one table. -/
structure Select where
  table : String
  projection : Projection := .all
  condition : Option Where := none
  order : List OrderTerm := []
  limit : Option UInt64 := none
  offset : Option UInt64 := none

/-- The columns of an optional condition. -/
def conditionNames (condition : Option Where) : List String := condition.elim [] Where.columns

/-- The names in a selection, from left to right. -/
def Select.names (q : Select) : List String :=
  q.projection.names ++ q.table :: conditionNames q.condition ++ q.order.map OrderTerm.column

/-- The statements that change a table. -/
inductive Write where
  | update (table : String) (assignments : List (String × Term)) (condition : Option Where)
  /-- A new record; without assignments every column takes its default. -/
  | insert (table : String) (assignments : List (String × Term))
  | delete (table : String) (condition : Option Where)

/-- The names in a statement that changes a table, from left to right. -/
def Write.names : Write → List String
  | update table assignments condition => table :: assignments.map Prod.fst ++ conditionNames condition
  | insert table assignments => table :: assignments.map Prod.fst
  | delete table condition => table :: conditionNames condition

/-- The statements of the library. -/
inductive Statement where
  | select (q : Select)
  /-- How many selected records have a value in a column. -/
  | count (table column : String) (condition : Option Where)
  | write (w : Write)

end CriteriaStore.Sql
