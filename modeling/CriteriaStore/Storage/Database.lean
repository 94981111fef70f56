import CriteriaStore.Storage.Catalog
import CriteriaStore.Storage.Query
/-!
# Databases

Tables that refer to each other. A write changes one table and leaves the others as they are: it has no further effects
on records that refer to a removed one. Whether every reference is satisfied is asked apart (`Database.isConsistent`), at the
end of a transaction, or of a statement outside of all transactions.
-/

namespace CriteriaStore.Storage

/-- What counts as an affected record of an update. -/
inductive RowCounting where
  /-- Each selected record. -/
  | selected
  /-- Each record that is different afterwards. -/
  | changed
  deriving Repr, DecidableEq

/-- The tables of a database. -/
structure Database where
  tables : List Table
  counting : RowCounting := .selected

/-- The result of a write. -/
structure Written where
  database : Database
  affected : Nat
  /-- The number of the new record of a numbered table. -/
  number : Option Int64 := none

namespace Database

/-- The table with a name. -/
def table? (d : Database) (name : String) : Option Table := d.tables.find? fun t => sameName t.schema.name name

/-- The table with a name, or the error that there is none. -/
def table (d : Database) (name : String) : Except StorageError Table :=
  match d.table? name with
  | some t => .ok t
  | none => .error (.noSuchTable name)

/-- The tables that tell of the database. -/
def listings (d : Database) : List Table := Catalog.listings d.tables

/-- The table or listing with a name, or the error that there is none. -/
def readable (d : Database) (name : String) : Except StorageError Table :=
  match d.listings.find? fun t => Catalog.answersTo t name with
  | some t => .ok t
  | none => d.table name

/-- The table with a name that may be changed, or the error that there is none. -/
def writable (d : Database) (name : String) : Except StorageError Table :=
  match d.listings.find? fun t => Catalog.answersTo t name with
  | some t => .error (.protectedTable t.schema.name)
  | none => d.table name

/-- The text of a statement ends at the first zero character, which can only be part of a name. -/
def checkNames (names : List String) : Except StorageError Unit :=
  match names.find? (·.contains '\x00') with
  | some name => .error (.cutName (String.ofList (name.toList.takeWhile (· ≠ '\x00'))))
  | none => .ok ()

/-- The database with one table replaced by its new state. -/
def setTable (d : Database) (t : Table) : Database :=
  { d with tables := d.tables.map fun u => if u.schema.name = t.schema.name then t else u }

/-- Whether a record refers only to keys that are stored. -/
def satisfied (d : Database) (t : Table) (r : Record) : Bool :=
  t.schema.columns.all fun c =>
    match c.references with
    | none => true
    | some parent =>
      (Record.cell r c.name).isNull ||
        (d.table? parent).any fun p =>
          p.records.any fun o => (Record.cell o p.schema.key).same (Record.cell r c.name)

/-- Whether every reference is to a stored key. -/
def isConsistent (d : Database) : Bool := d.tables.all fun t => t.records.all (d.satisfied t)

/-- How many of the selected records an update affects. -/
def affectedBy (d : Database) (t : Table) (condition : Option Sql.Where) (assignments : List (Column × Cell)) :
    Nat :=
  ((t.records.filter (selects t.schema condition)).filter fun r =>
    match d.counting with
    | .selected => true
    | .changed => t.schema.columns.any fun c =>
      !(Record.cell r c.name).same (Record.cell (Table.assign assignments r) c.name)).length

/-- The cells of bound assignments. -/
def cells (assignments : List (String × Sql.Term)) : List (String × Cell) :=
  assignments.map fun (c, v) => (c, match v with
    | .null => Cell.null
    | .bound v => Cell.ofScalar v)

/-- Carry out a write. -/
def write (d : Database) (w : Sql.Write) : Except StorageError Written := do
  checkNames w.names
  match w with
  | .update name assignments condition =>
    let t ← d.writable name
    match t.resolve (cells assignments) with
    | .error column => throw (.noSuchColumn column)
    | .ok assignments =>
      let t' ← t.update condition assignments
      return { database := d.setTable t', affected := d.affectedBy t condition assignments }
  | .insert name assignments =>
    let t ← d.writable name
    match t.resolve (cells assignments) with
    | .error column => throw (.noColumnNamed name column)
    | .ok assignments =>
      let (t', r) ← t.insert assignments
      return { database := d.setTable t', affected := 1, number := t.numberOf? r }
  | .delete name condition =>
    let t ← d.writable name
    return {
      database := d.setTable (t.delete condition)
      affected := (t.records.filter (selects t.schema condition)).length }

/-- The rows of a selection. -/
def rows (d : Database) (q : Sql.Select) : Except StorageError (List Row) := do
  checkNames q.names
  let t ← d.readable q.table
  return t.rows q

/-- The name under which a count is given. -/
def countName : String := "total"

/-- Whether a condition names the count itself: a name that is no column. -/
def namesCount (s : Schema) (condition : Option Sql.Where) : Bool :=
  (Sql.conditionNames condition).any fun name => sameName name countName && (s.column? name).isNone

/-- How many selected records have a value in a column. -/
def count (d : Database) (table column : String) (condition : Option Sql.Where) : Except StorageError Nat := do
  checkNames (column :: table :: Sql.conditionNames condition)
  let t ← d.readable table
  if namesCount t.schema condition then throw .countInCondition
  return t.count column condition

end Database

end CriteriaStore.Storage
