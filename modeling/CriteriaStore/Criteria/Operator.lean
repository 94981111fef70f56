/-!
# Operators

The comparisons a condition can ask for. Each has a complement, which asks for the opposite of the same
operand; `complement_complement` and `shape_complement` say that complements pair up within a shape.
-/

namespace CriteriaStore

/-- The operand an operator is made for. -/
inductive Shape where
  | nullary
  | scalar
  | pair
  | set
  deriving Repr, DecidableEq

/-- The comparisons a condition can ask for. -/
inductive Operator where
  | equals
  | notEqual
  | contains
  | notContains
  | startsWith
  | notStarts
  | endsWith
  | notEnds
  | greaterThan
  | greaterThanOrEqual
  | lessThan
  | lessThanOrEqual
  | range
  | notRange
  | group
  | notGroup
  | empty
  | notEmpty
  deriving Repr, DecidableEq, Inhabited

namespace Operator

/-- Every operator, each once. -/
def all : List Operator :=
  [equals, notEqual, contains, notContains, startsWith, notStarts, endsWith, notEnds, greaterThan,
    greaterThanOrEqual, lessThan, lessThanOrEqual, range, notRange, group, notGroup, empty, notEmpty]

/-- The operator that holds where this one fails. -/
def complement : Operator → Operator
  | equals => notEqual
  | notEqual => equals
  | contains => notContains
  | notContains => contains
  | startsWith => notStarts
  | notStarts => startsWith
  | endsWith => notEnds
  | notEnds => endsWith
  | greaterThan => lessThanOrEqual
  | greaterThanOrEqual => lessThan
  | lessThan => greaterThanOrEqual
  | lessThanOrEqual => greaterThan
  | range => notRange
  | notRange => range
  | group => notGroup
  | notGroup => group
  | empty => notEmpty
  | notEmpty => empty

/-- The operand the operator is made for. -/
def shape : Operator → Shape
  | range | notRange => .pair
  | group | notGroup => .set
  | empty | notEmpty => .nullary
  | _ => .scalar

@[simp] theorem complement_complement (op : Operator) : op.complement.complement = op := by
  cases op <;> rfl

@[simp] theorem shape_complement (op : Operator) : op.complement.shape = op.shape := by
  cases op <;> rfl

/-- The written name. -/
def name : Operator → String
  | equals => "equals"
  | notEqual => "not_equal"
  | contains => "contains"
  | notContains => "not_contains"
  | startsWith => "starts_with"
  | notStarts => "not_starts"
  | endsWith => "ends_with"
  | notEnds => "not_ends"
  | greaterThan => "greater_than"
  | greaterThanOrEqual => "greater_than_or_equal"
  | lessThan => "less_than"
  | lessThanOrEqual => "less_than_or_equal"
  | range => "range"
  | notRange => "not_range"
  | group => "group"
  | notGroup => "not_group"
  | empty => "empty"
  | notEmpty => "not_empty"

/-- The operator with a written name. -/
def ofName? (s : String) : Option Operator := all.find? fun op => op.name = s

theorem ofName?_name (op : Operator) : ofName? op.name = some op := by cases op <;> decide

end Operator

/-- The written name of a shape. -/
def Shape.name : Shape → String
  | .nullary => "nullary"
  | .scalar => "scalar"
  | .pair => "pair"
  | .set => "set"

end CriteriaStore
