/-!
# Transaction errors

How a transaction can end other than by a commit. The caller's own error stays apart from failures of the
transaction itself.
-/

namespace CriteriaStore

/-- Why a transaction was not committed; `ε` is the error type of the work inside it. -/
inductive TransactionError (ε : Type) where
  /-- The work failed and was undone. -/
  | work (e : ε)
  /-- The database has a transaction open already; the work was not begun. -/
  | nested
  /-- Opening or committing failed. -/
  | infra (text : String)
  /-- The work failed, and so did undoing it. -/
  | rollbackFailed (e : ε) (text : String)
  deriving Repr, DecidableEq

namespace TransactionError

variable {ε : Type}

/-- The wording for a transaction inside another one of the same database. -/
def nestedText : String := "nested transactions are not supported"

/-- The wording, given the wording of the work's errors. -/
def message (render : ε → String) : TransactionError ε → String
  | work e => render e
  | nested => nestedText
  | infra text => "infrastructure error: " ++ text
  | rollbackFailed e text => render e ++ " (rollback failed: " ++ text ++ ")"

/-- The error of the work, if it is what failed. -/
def work? : TransactionError ε → Option ε
  | work e => some e
  | rollbackFailed e _ => some e
  | _ => none

/-- The error folded into the error type of the work: its own error when it has one, else what the caller
makes of the text. -/
def intoWork (mapInfra : String → ε) : TransactionError ε → ε
  | work e => e
  | rollbackFailed e _ => e
  | nested => mapInfra nestedText
  | infra text => mapInfra text

end TransactionError

end CriteriaStore
