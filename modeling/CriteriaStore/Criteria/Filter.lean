import CriteriaStore.Criteria.Error
import CriteriaStore.OrderedMap
import CriteriaStore.Scalar
/-!
# Filters

A filter has three branches of conditions. Those of `must` have to hold, those of `mustNot` have to fail,
and of `should` one has to hold; how the branches combine is the business of compilation.

* Within a branch conditions are grouped by operator, groups in the order of their first condition
  (`Branch.conditions`).
* An empty set asks for nothing: such a condition is dropped when pushed and skipped when read.
-/

namespace CriteriaStore

/-- What a property is compared with. -/
inductive Operand where
  | none
  | scalar (v : Scalar)
  | pair (low high : Scalar)
  | set (values : List Scalar)
  deriving Repr, BEq, Inhabited

namespace Operand

/-- The scalars of an operand. -/
def values : Operand → List Scalar
  | none => []
  | scalar v => [v]
  | pair low high => [low, high]
  | set vs => vs

/-- Whether there is something left to compare with. -/
def isEffective : Operand → Bool
  | set [] => false
  | _ => true

end Operand

/-- A property and what it is compared with. -/
structure Condition where
  property : String
  operand : Operand
  deriving Repr, BEq, Inhabited

/-- The branch a condition belongs to. -/
inductive Clause where
  | must
  | mustNot
  | should
  deriving Repr, DecidableEq, Inhabited

namespace Clause

/-- Whether the conditions of the branch are applied through their complement. -/
def isNegated : Clause → Bool
  | mustNot => true
  | _ => false

/-- Whether one condition of the branch is enough. -/
def isDisjunctive : Clause → Bool
  | should => true
  | _ => false

/-- The branches in the order in which they are compiled. -/
def all : List Clause := [must, mustNot, should]

/-- The operator that a condition of this branch applies. -/
def applied (c : Clause) (op : Operator) : Operator := if c.isNegated then op.complement else op

end Clause

/-- Conditions grouped by operator, groups in the order of their first condition. -/
structure Branch where
  groups : OrderedMap Operator (List Condition)
  deriving BEq, Inhabited

namespace Branch

/-- The branch without conditions. -/
def empty : Branch := ⟨∅⟩

/-- The conditions recorded under an operator. -/
def get (b : Branch) (op : Operator) : List Condition := (b.groups.get? op).getD []

/-- Record a condition, unless it asks for nothing. -/
def push (b : Branch) (op : Operator) (c : Condition) : Branch :=
  if c.operand.isEffective then ⟨b.groups.insert op (b.get op ++ [c])⟩ else b

/-- The conditions that ask for something, group by group. -/
def conditions (b : Branch) : List (Operator × Condition) :=
  (b.groups.entries.flatMap fun (op, cs) => cs.map fun c => (op, c)).filter fun (_, c) =>
    c.operand.isEffective

/-- Whether no condition asks for anything. -/
def isEmpty (b : Branch) : Bool := b.conditions.isEmpty

end Branch

/-- Three branches of conditions. -/
structure Filter where
  must : Branch := .empty
  mustNot : Branch := .empty
  should : Branch := .empty
  deriving BEq, Inhabited

namespace Filter

/-- The filter without conditions. -/
def empty : Filter := {}

/-- One branch. -/
def branch (f : Filter) : Clause → Branch
  | .must => f.must
  | .mustNot => f.mustNot
  | .should => f.should

/-- The filter with one branch replaced. -/
def setBranch (f : Filter) (b : Branch) : Clause → Filter
  | .must => { f with must := b }
  | .mustNot => { f with mustNot := b }
  | .should => { f with should := b }

/-- Record a condition in a branch. -/
def push (f : Filter) (clause : Clause) (op : Operator) (c : Condition) : Filter :=
  f.setBranch ((f.branch clause).push op c) clause

/-- The conditions that ask for something, with their branch and declared operator, in the order in which
they are compiled. -/
def conditions (f : Filter) : List (Clause × Operator × Condition) :=
  Clause.all.flatMap fun clause => (f.branch clause).conditions.map fun c => (clause, c)

/-- The properties the filter asks about, repeats kept. -/
def properties (f : Filter) : List String := f.conditions.map fun (_, _, c) => c.property

/-- Whether no condition asks for anything. -/
def isEmpty (f : Filter) : Bool := f.conditions.isEmpty

/-- The filter with one branch emptied. -/
def clearBranch (f : Filter) (clause : Clause) : Filter := f.setBranch .empty clause

end Filter

end CriteriaStore
