import CriteriaStore.Repository.Request
import CriteriaStore.Session.TransactionError
/-!
# Sessions

A session is one task at work on several databases, each of which has a single connection. Transactional blocks
nest; the innermost one is the slot by which a database finds out whether it is in a transaction.

* `Session.transactional` runs work inside a transaction: it commits when the work succeeds, undoes it when the
  work fails, and does neither when a runner of the transaction is still held.
* A runner is resolved when it is asked for (`Session.runner`): the open transaction of the slot, or the
  connection itself.
-/

namespace CriteriaStore

/-- The connection of a database, and whether a transaction holds on to it. -/
structure Store where
  connection : Storage.Connection
  busy : Bool := false

/-- What a repository of a database runs on. -/
inductive Runner where
  /-- The connection, outside of every transaction. -/
  | direct
  /-- The open transaction of a database. -/
  | transaction (db : Nat)
  deriving Repr, DecidableEq

/-- Whether a runner is a transaction. -/
def Runner.isTransactional : Runner → Bool
  | direct => false
  | transaction _ => true

/-- One task at work on several databases. -/
structure Session where
  stores : Nat → Store
  /-- The databases of the open blocks, innermost first. -/
  blocks : List Nat := []
  /-- Runners that are still held. -/
  held : List Runner := []

namespace Session

/-- A session in which every database starts with the same connection. -/
def start (c : Storage.Connection) : Session := { stores := fun _ => { connection := c } }

/-- The session with the store of one database replaced. -/
def setStore (s : Session) (db : Nat) (st : Store) : Session :=
  { s with stores := fun i => if i = db then st else s.stores i }

/-- Whether a database is in a transaction: only the innermost block counts. -/
def inTransaction (s : Session) (db : Nat) : Bool := s.blocks.head? == some db

/-- The runner that a database offers now. -/
def runner (s : Session) (db : Nat) : Runner := if s.inTransaction db then .transaction db else .direct

/-- The plain connection of a database, which is refused inside its transaction. -/
def plain (s : Session) (db : Nat) : Except RepositoryError Runner :=
  if s.inTransaction db then .error .connectionInTransaction else .ok .direct

/-- The text of a runner. -/
def runnerText (r : Runner) : String :=
  "TaskRunner \x7b transactional: " ++ (if r.isTransactional then "true" else "false") ++ ", .. \x7d"

/-- The text of a plain connection. -/
def plainText : String := "DbConn \x7b .. \x7d"

/-- Run an action of a database on a runner; gives the events of the action as well. A direct runner has to
wait in vain for a connection that a transaction holds. -/
def perform {α : Type} (s : Session) (db : Nat) (r : Runner) (a : Action α) :
    (Except RepositoryError α × List Event) × Session :=
  let st := s.stores db
  if st.busy && !r.isTransactional then ((.error .poolTimedOut, []), s)
  else
    let (result, j) := a.runOn st.connection
    ((result, j.events), s.setStore db { st with connection := j.connection })

/-- Hold on to the runner that a database offers now. -/
def hold (s : Session) (db : Nat) : Session := { s with held := s.held ++ [s.runner db] }

/-- Whether a runner of the transaction of a database is held. -/
def isHeld (s : Session) (db : Nat) : Bool := s.held.contains (.transaction db)

/-- Let go of every held runner. A transaction whose block has ended is undone with its last runner. -/
def release (s : Session) : Session :=
  { s with
    held := []
    stores := fun db =>
      let st := s.stores db
      if s.isHeld db && !s.blocks.contains db then { connection := st.connection.rollback.2, busy := false }
      else st }

/-- The text of a failed step of a transaction. -/
def stepText (e : Storage.StorageError) : String := Phase.query.report e

/-- Open a transaction on a database. -/
def openTransaction (s : Session) (db : Nat) : Except String Session :=
  let st := s.stores db
  if st.busy then .error RepositoryError.poolTimedOut.message
  else
    match st.connection.begin with
    | (.ok (), c) => .ok { s.setStore db { connection := c, busy := true } with blocks := db :: s.blocks }
    | (.error e, _) => .error (stepText e)

/-- Commit the transaction of a database. A transaction that cannot be committed is undone, as far as that
goes. -/
def commit (s : Session) (db : Nat) : Except String Unit × Session :=
  match (s.stores db).connection.commit with
  | (.ok (), c) => (.ok (), s.setStore db { connection := c })
  | (.error e, c) => (.error (stepText e), s.setStore db { connection := c.rollback.2 })

/-- Undo the transaction of a database. -/
def rollback (s : Session) (db : Nat) : Except String Unit × Session :=
  match (s.stores db).connection.rollback with
  | (.ok (), c) => (.ok (), s.setStore db { connection := c })
  | (.error e, c) => (.error (stepText e), s.setStore db { connection := c.rollback.2 })

/-- The wording for a transaction whose runner is still held at its end. -/
def outlivedText : String := "transaction runner outlived the transactional block"

/-- How a transactional block ended. -/
structure Ending (β ε α : Type) where
  /-- What the work gave, if it was begun. -/
  given : Option β
  result : Except (TransactionError ε) α
  /-- The events of the transaction itself. -/
  events : List Event

/-- Run work inside a transaction of a database. The verdict on what the work gives decides between commit and
rollback. -/
def transactional {β ε α : Type} (s : Session) (db : Nat) (work : Session → β × Session)
    (verdict : β → Except ε α) : Ending β ε α × Session :=
  if s.inTransaction db then (⟨none, .error .nested, []⟩, s)
  else
    match s.openTransaction db with
    | .error text => (⟨none, .error (.infra text), []⟩, s)
    | .ok opened =>
      let (given, worked) := work opened
      let s := { worked with blocks := s.blocks }
      if s.isHeld db then (⟨some given, .error (.infra outlivedText), [.started]⟩, s)
      else
        match verdict given with
        | .ok a =>
          match s.commit db with
          | (.ok (), s) => (⟨some given, .ok a, [.started, .committed]⟩, s)
          | (.error text, s) => (⟨some given, .error (.infra text), [.started]⟩, s)
        | .error e =>
          match s.rollback db with
          | (.ok (), s) => (⟨some given, .error (.work e), [.started, .rolledBack]⟩, s)
          | (.error text, s) =>
            (⟨some given, .error (.rollbackFailed e text), [.started, .rollbackFailed text]⟩, s)

end Session

end CriteriaStore
