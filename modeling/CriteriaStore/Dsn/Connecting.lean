import CriteriaStore.Config.Configuration
import CriteriaStore.Dsn.Engine
import CriteriaStore.Dsn.Sqlite
import CriteriaStore.Repository.Event
/-!
# Connecting

From a configuration to a connected pool. The engine is found first and reported; only SQLite is available.
-/

namespace CriteriaStore

/-- A connected pool. -/
structure Pool where
  engine : Sql.Dialect
  /-- The connection string without the blanks before it. -/
  dsn : String
  options : PoolOptions

namespace Pool

/-- The name of an engine in events and in the text of a pool. -/
def engineText : Sql.Dialect → String
  | .sqlite => "Sqlite"
  | .postgres => "Postgres"
  | .mysql => "MySql"

/-- The text of a pool. -/
def text (p : Pool) : String := "Db \x7b engine: " ++ engineText p.engine ++ ", .. \x7d"

end Pool

/-- Connect the pool of an engine. -/
def Sql.Dialect.connect (engine : Sql.Dialect) (dsn : String) (options : PoolOptions) : Except DsnError Pool :=
  match engine with
  | .sqlite => do
    (← Dsn.SqliteTarget.ofDsn dsn).check
    return { engine, dsn, options }
  | _ => .error (.unavailable engine)

/-- Connect the pool of a configuration, with the events reported on the way. -/
def Configuration.connect (c : Configuration) : Except DsnError Pool × List Event :=
  match Dsn.engine c.dsn with
  | .error e => (.error e, [])
  | .ok engine =>
    (engine.connect (Text.trimStart c.dsn) c.pool, [.connecting (Pool.engineText engine)])

end CriteriaStore
