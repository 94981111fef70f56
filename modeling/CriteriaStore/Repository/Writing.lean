import CriteriaStore.Mapping.Flattening
import CriteriaStore.Repository.Reading
/-!
# Writing rows

Entities are flattened to rows, and a row is stored under its identity: over the record that has it, or as a new
one. What was written is read back.

* A batch is checked as a whole before its first statement (`Rows.checked`).
* Whether the identities of a batch are stored is asked once; then the stored ones are updated and the others
  inserted.
-/

namespace CriteriaStore

/-- The result of an attempt to update. -/
inductive UpdateOutcome where
  | updated
  /-- No record has the identity. -/
  | missing
  deriving Repr, DecidableEq

namespace Rows

variable {ε : Type}

/-- The assignments of a row to the columns of a mapping, in its order, and the values they bind. The
identity column is assigned only when asked for. -/
def assignments (m : Mapping ε) (row : Row) (withIdentity : Bool) :
    List String → Bindings → Except RepositoryError (List (String × Sql.Term) × Bindings)
  | [], b => .ok ([], b)
  | column :: rest, b =>
    if column = m.identity && !withIdentity then assignments m row withIdentity rest b
    else
      match row.get? column with
      | none => .error (.missingColumnValue m.table column)
      | some v =>
        match assignments m row withIdentity rest (b.recordTerm .must (.ofScalar v)) with
        | .ok (as, b') => .ok ((column, .ofScalar v) :: as, b')
        | .error e => .error e

/-- Write a row over the record with an identity. When the update counts no record, a look-up tells whether
there is none or whether the values were already stored. -/
def update (m : Mapping ε) (id : Scalar) (row : Row) : Action UpdateOutcome := do
  let (as, b) ← assignments m row false m.properties.columns {}
  let affected ←
    if as.isEmpty then pure 0
    else do
      let w := Sql.Write.update m.table as (some (m.hasIdentity id))
      Action.built m.table (.write w) (b.recordTerm .must (.ofScalar id))
      Action.write w
  if 0 < affected then return .updated
  if ← Rows.exists m id then return .updated else return .missing

/-- The identity under which a new row is to be stored; nothing if storage chooses. -/
def assignedIdentity (m : Mapping ε) (row : Row) : Scalar :=
  if m.generatesIdentity then .null else (row.get? m.identity).getD .null

/-- Store a new row; gives its identity. One that storage chose is the number of the last record, a signed word: an
insertion does not answer with the new record. -/
def insert (m : Mapping ε) (row : Row) : Action Scalar := do
  let assigned := assignedIdentity m row
  let (as, b) ← assignments m row (!assigned.isNull) m.properties.columns {}
  let w := Sql.Write.insert m.table as
  Action.built m.table (.write w) b
  let _ ← Action.write w
  if assigned.isNull then return .int (← Action.lastNumber) else return assigned

/-- The row that was just written. -/
def reread (m : Mapping ε) (id : Scalar) : Action Row := do
  match ← find m id none with
  | some row => return row
  | none => throw (.notFoundAfterWrite m.table id.keyText)

/-- Store an entity: over the record with its identity, or as a new one. -/
def put (m : Mapping ε) (flatten : Flattener ε) (e : ε) : Action Row := do
  let row ← Action.resolve (flatten m e)
  let id := m.identityOf e
  let outcome ← if id.isNull then pure .missing else update m id row
  match outcome with
  | .updated => reread m id
  | .missing => reread m (← insert m row)

/-- The filter of the records with one of some identities. -/
def oneOf (property : String) (ids : List Scalar) : Filter :=
  Filter.empty.push .must .group ⟨property, .set ids⟩

/-- The entities of a batch as rows with their identities. Every entity needs an identity, unless storage
chooses. -/
def checked (m : Mapping ε) (flatten : Flattener ε) : Nat → List ε → Except RepositoryError (List (Scalar × Row))
  | _, [] => .ok []
  | index, e :: rest =>
    if (m.identityOf e).isNull && !m.generatesIdentity then .error (.notAnIdentity index)
    else
      match flatten m e with
      | .error err => .error (.criteria err)
      | .ok row =>
        match checked m flatten (index + 1) rest with
        | .ok batch => .ok ((m.identityOf e, row) :: batch)
        | .error err => .error err

/-- The keys of those identities that are stored. -/
def storedKeys (m : Mapping ε) (ids : List Scalar) : Action (List String) := do
  if ids.isEmpty then return []
  let property ← Action.resolve m.identityProperty
  let rows ← findBy m (some (oneOf property ids)) none (some (FieldSet.ofList [property]))
  return rows.filterMap fun r => (r.get? m.identity).map Scalar.keyText

/-- Store rows over the records with their identities; rows whose record has gone are inserted. Gives the
identities of the written records. -/
def updateEach (m : Mapping ε) : List (Scalar × Row) → Action (List Scalar)
  | [] => return []
  | (id, row) :: rest => do
    let id ← match ← update m id row with
      | .updated => pure id
      | .missing => insert m row
    return id :: (← updateEach m rest)

/-- Store new rows; gives their identities. -/
def insertEach (m : Mapping ε) : List (Scalar × Row) → Action (List Scalar)
  | [] => return []
  | (_, row) :: rest => do
    let id ← insert m row
    return id :: (← insertEach m rest)

/-- Store a batch of entities; gives the written rows. -/
def putAll (m : Mapping ε) (flatten : Flattener ε) (es : List ε) : Action (List Row) := do
  if es.isEmpty then return []
  let property ← Action.resolve m.identityProperty
  let batch ← checked m flatten 0 es
  let keys ← storedKeys m ((batch.map Prod.fst).filter fun id => !id.isNull)
  let isStored := fun (e : Scalar × Row) => !e.1.isNull && keys.contains e.1.keyText
  let updated ← updateEach m (batch.filter isStored)
  let inserted ← insertEach m (batch.filter fun e => !isStored e)
  findBy m (some (oneOf property (updated ++ inserted))) none none

/-- Remove the record with an identity; gives the number of removed records. -/
def erase (m : Mapping ε) (id : Scalar) : Action Nat := do
  if id.isNull then return 0
  let w := Sql.Write.delete m.table (some (m.hasIdentity id))
  Action.built m.table (.write w) (Bindings.recordTerm .must {} (.ofScalar id))
  Action.write w

/-- Remove the records of a filter; gives their number. Without condition every record goes, which is
reported. -/
def eraseBy (m : Mapping ε) (filter : Option Filter) : Action Nat := do
  let (condition, b) ← Action.resolve (m.condition filter {})
  if condition.isNone then Action.report (.removingEveryRow m.table)
  let w := Sql.Write.delete m.table condition
  Action.built m.table (.write w) b
  Action.write w

end Rows

end CriteriaStore
