import CriteriaStore.Repository.Error
import CriteriaStore.Repository.Event
import CriteriaStore.Storage.Connection
/-!
# Actions

What repositories do: run statements on a connection, report events, and fail. A failure keeps the
connection and the events as they are at that point.
-/

namespace CriteriaStore

/-- A connection and the events reported on it, oldest first. -/
structure Journal where
  connection : Storage.Connection
  events : List Event := []

/-- A computation on a connection that reports events and may fail. -/
abbrev Action (α : Type) := ExceptT RepositoryError (StateM Journal) α

namespace Action

variable {α : Type}

/-- Run an action on a connection. -/
def runOn (a : Action α) (c : Storage.Connection) : Except RepositoryError α × Journal :=
  (ExceptT.run a).run { connection := c }

/-- Report an event. -/
def report (e : Event) : Action Unit := modify fun j => { j with events := j.events ++ [e] }

/-- The value of a step that only resolves criteria. -/
def resolve : Except CriteriaError α → Action α
  | .ok a => pure a
  | .error e => throw (.criteria e)

/-- Report that a statement is built. -/
def built (table : String) (s : Sql.Statement) (b : Bindings) : Action Unit :=
  report (.built table (s.render .sqlite) b)

/-- The rows of a selection. -/
def rows (q : Sql.Select) : Action (List Row) := do
  match (← get).connection.database.rows q with
  | .ok rs => return rs
  | .error e => throw (.storage .query e)

/-- The first row of a selection. A row without columns counts as none. -/
def firstRow? (q : Sql.Select) : Action (Option Row) := do
  return (← rows q).head?.bind fun r => if r.isEmpty then none else some r

/-- How many selected records have a value in a column. -/
def count (table column : String) (condition : Option Sql.Where) : Action Nat := do
  match (← get).connection.database.count table column condition with
  | .ok n => return n
  | .error e => throw (.storage .query e)

/-- Carry out a write; gives the number of affected records. -/
def write (w : Sql.Write) : Action Nat := do
  let j ← get
  let (result, c) := j.connection.write w
  set { j with connection := c }
  match result with
  | .ok n => return n
  | .error e => throw (.storage .execution e)

/-- The number of the record that was added last. -/
def lastNumber : Action Int64 := do return (← get).connection.lastNumber

end Action

end CriteriaStore
