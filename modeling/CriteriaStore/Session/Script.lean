import CriteriaStore.Session.Session
/-!
# Scripts

Finite sequences of repository calls and transactions as data, and the replies they get. A transaction runs its
steps as one block, and its reply holds the replies to the steps.
-/

namespace CriteriaStore

/-- How a repository gets at its database. -/
inductive Access where
  /-- By the runner that the database offers. -/
  | runner
  /-- By the plain connection. -/
  | plain
  deriving Repr, DecidableEq

/-- One step of a script; `ρ` tells why a step could not even be stated. -/
inductive Step (ε ρ : Type) where
  /-- A call of a repository of entities. -/
  | entities (db : Nat) (repository : EntityRepository ε) (request : Request ε)
  /-- A call of a repository of rows. -/
  | rows (db : Nat) (access : Access) (mapping : Mapping ε) (flatten : Flattener ε) (request : RowRequest ε)
  /-- A call that fails because its arguments make no sense. -/
  | invalid (reason : ρ)
  | status (db : Nat)
  /-- Hold on to the runner of a database. -/
  | hold (db : Nat)
  /-- Let go of every held runner. -/
  | release
  /-- Run steps in a transaction. With `propagate` the first failing step is the error of the block; otherwise,
  when no step is, a given text is. -/
  | transaction (db : Nat) (steps : List (Step ε ρ)) (propagate : Bool) (fail : Option String)

/-- Why a step failed. -/
inductive StepError (ρ : Type) where
  | repository (e : RepositoryError)
  | invalid (reason : ρ)
  /-- The text that a block was told to fail with. -/
  | custom (text : String)
  | transaction (e : TransactionError (StepError ρ))

/-- What a database tells about itself. -/
structure Status where
  inTransaction : Bool
  runner : Runner
  plain : Except RepositoryError Runner

/-- The reply to a step, with the events it caused. -/
inductive Reply (ε ρ : Type) where
  | entities (result : Except RepositoryError (Answer ε)) (events : List Event)
  | rows (result : Except RepositoryError (Answer Row)) (events : List Event)
  | invalid (reason : ρ)
  | status (s : Status)
  | held
  | released (count : Nat)
  | transaction (result : Except (TransactionError (StepError ρ)) Unit) (steps : List (Reply ε ρ))
      (events : List Event)

variable {ε ρ : Type}

/-- Why the step of a reply failed, if it did. -/
def Reply.failure? : Reply ε ρ → Option (StepError ρ)
  | entities (.error e) _ => some (.repository e)
  | rows (.error e) _ => some (.repository e)
  | invalid reason => some (.invalid reason)
  | transaction (.error e) _ _ => some (.transaction e)
  | _ => none

/-- The replies to the steps of a block, and the error it ends with. -/
structure Progress (ε ρ : Type) where
  replies : List (Reply ε ρ)
  failure : Option (StepError ρ)

namespace Session

/-- What a database tells about itself. -/
def statusOf (s : Session) (db : Nat) : Status where
  inTransaction := s.inTransaction db
  runner := s.runner db
  plain := s.plain db

/-- Answer a call in rows. -/
def callRows (s : Session) (db : Nat) (access : Access) (m : Mapping ε) (flatten : Flattener ε) (r : RowRequest ε) :
    Reply ε ρ × Session :=
  let chosen : Except RepositoryError Runner := match access with
    | .runner => .ok (s.runner db)
    | .plain => s.plain db
  match chosen with
  | .error e => (.rows (.error e) [], s)
  | .ok runner =>
    let ((result, events), s) := s.perform db runner (Rows.answer m flatten r)
    (.rows result events, s)

/-- Answer a call in entities. -/
def callEntities (s : Session) (db : Nat) (repository : EntityRepository ε) (r : Request ε) :
    Reply ε ρ × Session :=
  let ((result, events), s) := s.perform db (s.runner db) (repository.answer r)
  (.entities result events, s)

/-- The result of a block whose steps went through as told. -/
def conclude (fail : Option String) (p : Progress ε ρ) : Except (StepError ρ) Unit :=
  match p.failure, fail with
  | some e, _ => .error e
  | none, some text => .error (.custom text)
  | none, none => .ok ()

mutual

/-- Carry out a step. -/
def run (s : Session) : Step ε ρ → Reply ε ρ × Session
  | .entities db repository request => s.callEntities db repository request
  | .rows db access mapping flatten request => s.callRows db access mapping flatten request
  | .invalid reason => (.invalid reason, s)
  | .status db => (.status (s.statusOf db), s)
  | .hold db => (.held, s.hold db)
  | .release => (.released s.held.length, s.release)
  | .transaction db steps propagate fail =>
    let (ending, s) := s.transactional db (fun s => s.runAll propagate steps) (conclude fail)
    (.transaction ending.result (ending.given.elim [] Progress.replies) ending.events, s)

/-- Carry out steps one after the other; with `propagate`, only up to the first failing one. -/
def runAll (s : Session) (propagate : Bool) : List (Step ε ρ) → Progress ε ρ × Session
  | [] => (⟨[], none⟩, s)
  | step :: rest =>
    let (reply, s) := s.run step
    match if propagate then reply.failure? else none with
    | some e => (⟨[reply], some e⟩, s)
    | none =>
      let (p, s) := s.runAll propagate rest
      (⟨reply :: p.replies, p.failure⟩, s)

end

end Session

end CriteriaStore
