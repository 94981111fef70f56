import CriteriaStore.Sql.Dialect
import CriteriaStore.Storage.Column
/-!
# Storage errors

Why storage refuses a statement or a step of a transaction, with the number and the wording it reports.
-/

namespace CriteriaStore.Storage

/-- Why storage refuses. -/
inductive StorageError where
  /-- A name with a zero character, where the text of the statement ends; only its start is known. -/
  | cutName (start : String)
  /-- A condition on the number of records that it selects. -/
  | countInCondition
  /-- A write to a table that only lists what there is. -/
  | protectedTable (table : String)
  | noSuchTable (table : String)
  /-- An assignment to a column that the table does not have. -/
  | noSuchColumn (column : String)
  /-- A new record for a column that the table does not have. -/
  | noColumnNamed (table column : String)
  /-- A key of a numbered table that is not an integer. -/
  | mismatchedKey
  /-- No further number is left for a new record. -/
  | full
  | missingValue (table column : String)
  | duplicateKey (table column : String)
  | duplicateValue (table column : String) (effect : ConflictEffect)
  /-- A reference to a key that is not stored. -/
  | missingParent
  | nothingToCommit
  | nothingToRollBack
  | alreadyOpen
  | noSuchSavepoint (level : Nat)
  deriving Repr, DecidableEq

namespace StorageError

/-- The number under which the error is reported. -/
def code : StorageError → Nat
  | cutName _ | countInCondition | protectedTable _ | noSuchTable _ | noSuchColumn _ | noColumnNamed _ _ => 1
  | nothingToCommit | nothingToRollBack | alreadyOpen | noSuchSavepoint _ => 1
  | full => 13
  | mismatchedKey => 20
  | missingParent => 787
  | missingValue _ _ => 1299
  | duplicateKey _ _ => 1555
  | duplicateValue _ _ _ => 2067

/-- The wording of the error. -/
def message : StorageError → String
  | cutName start => "unrecognized token: \"" ++ Sql.Dialect.sqlite.name start
  | countInCondition => "misuse of aggregate: COUNT()"
  | protectedTable table => "table " ++ table ++ " may not be modified"
  | noSuchTable table => "no such table: " ++ table
  | noSuchColumn column => "no such column: " ++ column
  | noColumnNamed table column => "table " ++ table ++ " has no column named " ++ column
  | mismatchedKey => "datatype mismatch"
  | full => "database or disk is full"
  | missingValue table column => "NOT NULL constraint failed: " ++ table ++ "." ++ column
  | duplicateKey table column => "UNIQUE constraint failed: " ++ table ++ "." ++ column
  | duplicateValue table column _ => "UNIQUE constraint failed: " ++ table ++ "." ++ column
  | missingParent => "FOREIGN KEY constraint failed"
  | nothingToCommit => "cannot commit - no transaction is active"
  | nothingToRollBack => "cannot rollback - no transaction is active"
  | alreadyOpen => "cannot start a transaction within a transaction"
  | noSuchSavepoint level => "no such savepoint: _sqlx_savepoint_" ++ toString level

/-- Whether the error takes the open transaction with it. -/
def rollsBack : StorageError → Bool
  | duplicateValue _ _ .transaction => true
  | full => true
  | _ => false

end StorageError

end CriteriaStore.Storage
