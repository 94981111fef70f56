import CriteriaStore.Config.DurationText
import CriteriaStore.Json.Value
/-!
# Configurations

The connection string and the options of the connection pool, with their defaults and their form as settings.
Absent options are left out of the settings, so an option that is absent where the default is not comes back as
the default.
-/

namespace CriteriaStore

/-- The options of a connection pool. -/
structure PoolOptions where
  /-- How many connections there may be. -/
  maxConns : Option UInt32 := some 10
  /-- How many connections are kept. -/
  minConns : Option UInt32 := none
  /-- How long to wait for a connection. -/
  acquireTimeout : Option Duration := some (.ofSeconds 30)
  /-- How long a connection may be idle. -/
  idleTimeout : Option Duration := none
  /-- How long a connection may be used. -/
  maxLifetime : Option Duration := none
  /-- Whether a connection is tested before it is handed out. -/
  testBeforeAcquire : Bool := false
  deriving DecidableEq, Inhabited

/-- A connection string and the options of the pool. -/
structure Configuration where
  dsn : String := "sqlite::memory:"
  pool : PoolOptions := {}
  deriving DecidableEq, Inhabited

namespace PoolOptions

/-- The names of the options, in the order in which they are written. -/
def names : List String :=
  ["max_conns", "min_conns", "acquire_timeout", "idle_timeout", "max_lifetime", "test_before_acquire"]

/-- The member of an option, when it is present. -/
def member (name : String) (v : Option Json) : List (String × Json) := (v.map fun v => (name, v)).toList

/-- A number as a setting. -/
def count (n : UInt32) : Json := .word n.toUInt64

/-- A duration as a setting. -/
def duration (d : Duration) : Json := .string d.render

/-- The options as settings. -/
def toJson (p : PoolOptions) : Json :=
  .object (member "max_conns" (p.maxConns.map count)
    ++ member "min_conns" (p.minConns.map count)
    ++ member "acquire_timeout" (p.acquireTimeout.map duration)
    ++ member "idle_timeout" (p.idleTimeout.map duration)
    ++ member "max_lifetime" (p.maxLifetime.map duration)
    ++ [("test_before_acquire", .bool p.testBeforeAcquire)])

end PoolOptions

namespace Configuration

/-- The names of the settings. -/
def names : List String := ["dsn", "pool"]

/-- The configuration as settings. -/
def toJson (c : Configuration) : Json := .object [("dsn", .string c.dsn), ("pool", c.pool.toJson)]

end Configuration

end CriteriaStore
