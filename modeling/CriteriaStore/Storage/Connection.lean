import CriteriaStore.Storage.Database
/-!
# Connections

A database together with its open transactions. Opening one saves the database; outside of every transaction
each statement is one of its own.

* The first `begin` of a connection opens a transaction, further ones set a savepoint in it. The connection
  counts its levels itself, and a step that fails does not change the count.
* All references are deferred: they are checked when the outermost transaction is committed, or after each statement
  when none is open. There are none that a statement inside of a transaction has to satisfy at once.
* `rollback_begin` and `commit_begin` say that a transaction without statements has no effect.
-/

namespace CriteriaStore.Storage

/-- A point to return to. -/
structure Frame where
  /-- The level of a savepoint; the transaction itself has none. -/
  level : Option Nat
  saved : Database

/-- A database with its open transactions, innermost first. -/
structure Connection where
  database : Database
  frames : List Frame := []
  /-- How many transactions have been begun and not ended. -/
  depth : Nat := 0
  /-- The number of the record that was added last. -/
  lastNumber : Int64 := 0

namespace Connection

/-- Give up everything since the outermost transaction was opened. -/
def abandon (c : Connection) : Connection :=
  match c.frames.getLast? with
  | some f => { c with database := f.saved, frames := [] }
  | none => c

/-- Carry out a write, which is refused with a deferred reference left open when no transaction is. -/
def write (c : Connection) (w : Sql.Write) : Except StorageError Nat × Connection :=
  match c.database.write w with
  | .error e => (.error e, if e.rollsBack then c.abandon else c)
  | .ok r =>
    let c' := { c with lastNumber := r.number.getD c.lastNumber }
    if c.frames.isEmpty && !r.database.isConsistent then (.error .missingParent, c')
    else (.ok r.affected, { c' with database := r.database })

/-- Open a transaction, or set a savepoint in the open one. -/
def begin (c : Connection) : Except StorageError Unit × Connection :=
  if c.depth = 0 then
    if c.frames.isEmpty then (.ok (), { c with frames := [⟨none, c.database⟩], depth := 1 })
    else (.error .alreadyOpen, c)
  else (.ok (), { c with frames := ⟨some c.depth, c.database⟩ :: c.frames, depth := c.depth + 1 })

/-- The frames from the savepoint of a level on, if there is one. -/
def upTo (level : Nat) : List Frame → Option (Frame × List Frame)
  | [] => none
  | f :: rest => if f.level = some level then some (f, rest) else upTo level rest

/-- Make the innermost transaction part of what is around it. -/
def commit (c : Connection) : Except StorageError Unit × Connection :=
  match c.depth with
  | 0 => (.ok (), c)
  | 1 =>
    if c.frames.isEmpty then (.error .nothingToCommit, c)
    else if !c.database.isConsistent then (.error .missingParent, c)
    else (.ok (), { c with frames := [], depth := 0 })
  | level + 1 =>
    match upTo level c.frames with
    | none => (.error (.noSuchSavepoint level), c)
    | some (_, rest) =>
      if rest.isEmpty && !c.database.isConsistent then (.error .missingParent, c)
      else (.ok (), { c with frames := rest, depth := level })

/-- Undo the innermost transaction. A savepoint stays set. -/
def rollback (c : Connection) : Except StorageError Unit × Connection :=
  match c.depth with
  | 0 => (.ok (), c)
  | 1 =>
    if c.frames.isEmpty then (.error .nothingToRollBack, c)
    else (.ok (), { c.abandon with depth := 0 })
  | level + 1 =>
    match upTo level c.frames with
    | none => (.error (.noSuchSavepoint level), c)
    | some (f, rest) => (.ok (), { c with database := f.saved, frames := f :: rest, depth := level })

theorem rollback_begin {c : Connection} (hf : c.frames = []) (hd : c.depth = 0) :
    c.begin.2.rollback = (.ok (), c) := by
  cases c; simp_all [begin, rollback, abandon]

theorem commit_begin {c : Connection} (hf : c.frames = []) (hd : c.depth = 0)
    (h : c.database.isConsistent = true) : c.begin.2.commit = (.ok (), c) := by
  cases c; simp_all [begin, commit]

end Connection

end CriteriaStore.Storage
