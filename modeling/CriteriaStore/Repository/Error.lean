import CriteriaStore.Criteria.Error
import CriteriaStore.Storage.Error
/-!
# Repository errors

Why a repository cannot do what it is asked to.
-/

namespace CriteriaStore

/-- What storage was doing when it refused. -/
inductive Phase where
  /-- Reading rows, or a step of a transaction. -/
  | query
  /-- A statement without rows. -/
  | execution
  deriving Repr, DecidableEq

/-- Why a repository cannot do what it is asked to. -/
inductive RepositoryError where
  | criteria (e : CriteriaError)
  /-- An entity of a batch has no identity, and storage does not choose one. -/
  | notAnIdentity (index : Nat)
  | missingColumnValue (table column : String)
  | notFoundAfterWrite (table key : String)
  /-- A row that the mapping makes no entity of. -/
  | hydration (table : String)
  | storage (phase : Phase) (e : Storage.StorageError)
  /-- A plain connection was asked for while a transaction is open. -/
  | connectionInTransaction
  /-- The only connection is in use by a transaction. -/
  | poolTimedOut
  deriving Repr, DecidableEq

/-- The wording of a refusal by storage. -/
def Phase.report (p : Phase) (e : Storage.StorageError) : String :=
  (match p with
    | query => "Query Error: "
    | execution => "Execution Error: ")
  ++ "error returned from database: (code: " ++ toString e.code ++ ") " ++ e.message

/-- The wording of a repository error. -/
def RepositoryError.message : RepositoryError → String
  | criteria e => e.message
  | notAnIdentity index => "entity at position " ++ toString index ++ " carries no identity"
  | missingColumnValue table column => "row for `" ++ table ++ "` has no value for column `" ++ column ++ "`"
  | notFoundAfterWrite table key => "`" ++ table ++ "` row `" ++ key ++ "` could not be read back after writing it"
  | hydration table => "`" ++ table ++ "` row could not be hydrated into an entity"
  | storage phase e => phase.report e
  | connectionInTransaction => "Non-transactional connection requested inside an active transaction"
  | poolTimedOut => "Failed to acquire connection from pool: Connection pool timed out"

end CriteriaStore
