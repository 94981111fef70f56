import CriteriaStore.Mapping.Mapping
import CriteriaStore.Repository.Action
/-!
# Reading rows

Rows of a mapped table by identity, by criteria, different ones only, and their number. Criteria are
resolved before the statement is built, so a criteria error comes before any event.
-/

namespace CriteriaStore

namespace Sql

/-- The projection to some properties; none, or no set, asks for every column. -/
def Projection.ofFields (properties : PropertyMap) : Option FieldSet → Except CriteriaError Projection
  | none => .ok .all
  | some fields =>
    if fields.isEmpty then .ok .all
    else
      match properties.select fields with
      | .ok names => .ok (.columns names)
      | .error e => .error e

/-- The projection to different rows of some properties. -/
def Projection.ofDistinct (properties : PropertyMap) (fields : FieldSet) : Except CriteriaError Projection :=
  match properties.select fields with
  | .ok names => .ok (.distinct names)
  | .error e => .error e

end Sql

namespace Mapping

variable {ε : Type}

/-- The condition that a record has an identity. -/
def hasIdentity (m : Mapping ε) (id : Scalar) : Sql.Where :=
  .single (.compare m.identity .eq (.ofScalar id))

/-- The condition of an optional filter, and the values it binds. -/
def condition (m : Mapping ε) (filter : Option Filter) (b : Bindings) :
    Except CriteriaError (Option Sql.Where × Bindings) :=
  match filter with
  | none => .ok (none, b)
  | some f =>
    match f.compile m.properties b with
    | (.ok w, b') => .ok (w, b')
    | (.error e, _) => .error e

/-- The selection of the records of a filter in a sort order, and the values it binds. -/
def selection (m : Mapping ε) (projection : Sql.Projection) (filter : Option Filter) (sort : Option SortOrder)
    (b : Bindings) : Except CriteriaError (Sql.Select × Bindings) :=
  match m.condition filter b with
  | .error e => .error e
  | .ok (condition, b') =>
    let q : Sql.Select := { table := m.table, projection, condition }
    match q.orderBy m.properties (sort.getD {}) with
    | .ok q => .ok (q, b')
    | .error e => .error e

end Mapping

namespace Rows

variable {ε : Type}

/-- The row with an identity; nothing has no identity. -/
def find (m : Mapping ε) (id : Scalar) (fields : Option FieldSet) : Action (Option Row) := do
  if id.isNull then return none
  let projection ← Action.resolve (Sql.Projection.ofFields m.properties fields)
  let q : Sql.Select := { table := m.table, projection, condition := some (m.hasIdentity id), limit := some 1 }
  Action.built m.table (.select q) (Bindings.recordTerm .must {} (.ofScalar id))
  Action.firstRow? q

/-- Whether there is a row with an identity. -/
def «exists» (m : Mapping ε) (id : Scalar) : Action Bool := do return (← find m id none).isSome

/-- The rows of a filter in a sort order. -/
def findBy (m : Mapping ε) (filter : Option Filter) (sort : Option SortOrder) (fields : Option FieldSet) :
    Action (List Row) := do
  let projection ← Action.resolve (Sql.Projection.ofFields m.properties fields)
  let (q, b) ← Action.resolve (m.selection projection filter sort {})
  Action.built m.table (.select q) b
  Action.rows q

/-- The different rows of some properties. -/
def findDistinct (m : Mapping ε) (distinct : FieldSet) (filter : Option Filter) (sort : Option SortOrder) :
    Action (List Row) := do
  let projection ← Action.resolve (Sql.Projection.ofDistinct m.properties distinct)
  let (q, b) ← Action.resolve (m.selection projection filter sort {})
  Action.built m.table (.select q) b
  Action.rows q

/-- The number of records of a filter that have an identity. -/
def count (m : Mapping ε) (filter : Option Filter) : Action Nat := do
  let (condition, b) ← Action.resolve (m.condition filter {})
  Action.built m.table (.count m.table m.identity condition) b
  Action.count m.table m.identity condition

end Rows

end CriteriaStore
