import CriteriaStore.Sql.Compiling
import CriteriaStore.Sql.Dialect
/-!
# Events

What the library reports while it works: every statement in the order in which it is built, and the course of
transactions.
-/

namespace CriteriaStore

/-- Something worth reporting. -/
inductive Event where
  /-- A statement was built for a table, with the values named so far. -/
  | built (table sql : String) (bindings : Bindings)
  /-- A removal without condition is about to be built. -/
  | removingEveryRow (table : String)
  | started
  | committed
  | rolledBack
  | rollbackFailed (error : String)
  /-- A pool is about to be connected. -/
  | connecting (engine : String)
  deriving Repr, BEq

/-- How serious an event is. -/
inductive Level where
  | debug
  | warn
  | error
  deriving Repr, DecidableEq

/-- The level of an event. -/
def Event.level : Event → Level
  | removingEveryRow _ => .warn
  | rollbackFailed _ => .error
  | _ => .debug

/-- The wording of an event. -/
def Event.message : Event → String
  | built _ _ _ => "statement built"
  | removingEveryRow _ => "removing every row"
  | started => "transaction started"
  | committed => "transaction committed"
  | rolledBack => "transaction rolled back"
  | rollbackFailed _ => "transaction rollback failed"
  | connecting _ => "connecting database pool"

end CriteriaStore
