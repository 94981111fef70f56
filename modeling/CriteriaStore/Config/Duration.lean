/-!
# Durations

Stretches of time, counted in nanoseconds. Their whole seconds fit a 64-bit word, so adding may fail. Units of
time carry their size and the grain in which amounts of them are counted.
-/

namespace CriteriaStore

/-- A stretch of time whose whole seconds fit a 64-bit word. -/
structure Duration where
  nanoseconds : Nat
  bound : nanoseconds < UInt64.size * 1_000_000_000
  deriving DecidableEq

/-- The grains in which amounts of time are counted. -/
inductive Grain where
  | nanosecond
  | second
  deriving Repr, DecidableEq

namespace Duration

/-- No time at all. -/
def zero : Duration := ⟨0, by decide⟩

/-- A number of seconds. -/
def ofSeconds (n : UInt64) : Duration :=
  ⟨n.toNat * 1_000_000_000, Nat.mul_lt_mul_of_pos_right n.toNat_lt_size (by decide)⟩

instance : Inhabited Duration := ⟨zero⟩

/-- The whole seconds. -/
def seconds (d : Duration) : Nat := d.nanoseconds / 1_000_000_000

/-- The nanoseconds beyond the whole seconds. -/
def subsecond (d : Duration) : Nat := d.nanoseconds % 1_000_000_000

/-- The duration of a number of nanoseconds, when it is in range. -/
def ofNanoseconds? (n : Nat) : Option Duration :=
  if h : n < UInt64.size * 1_000_000_000 then some ⟨n, h⟩ else none

theorem ofNanoseconds?_nanoseconds (d : Duration) : ofNanoseconds? d.nanoseconds = some d :=
  dif_pos d.bound

/-- A duration with some grains more. Nanoseconds are gathered in a word before they are carried into seconds, so
they must fit one. -/
def add? (d : Duration) (n : Nat) : Grain → Option Duration
  | .nanosecond => if d.subsecond + n < UInt64.size then ofNanoseconds? (d.nanoseconds + n) else none
  | .second => ofNanoseconds? (d.nanoseconds + n * 1_000_000_000)

end Duration

/-- The units of time. -/
inductive TimeUnit where
  | nanosecond
  | microsecond
  | millisecond
  | second
  | minute
  | hour
  | day
  | week
  /-- A twelfth of a year, as 30.44 days. -/
  | month
  /-- A year of 365.25 days. -/
  | year
  deriving Repr, DecidableEq

namespace TimeUnit

/-- The grain in which whole amounts of a unit are counted. -/
def grain : TimeUnit → Grain
  | nanosecond | microsecond | millisecond => .nanosecond
  | _ => .second

/-- How many nanoseconds a unit lasts. -/
def nanoseconds : TimeUnit → Nat
  | nanosecond => 1
  | microsecond => 1000
  | millisecond => 1000000
  | second => 1_000_000_000
  | minute => 60 * 1_000_000_000
  | hour => 3600 * 1_000_000_000
  | day => 86400 * 1_000_000_000
  | week => 604800 * 1_000_000_000
  | month => 2630016 * 1_000_000_000
  | year => 31557600 * 1_000_000_000

/-- The grain in which fractions of a unit are counted; nanoseconds have no fractions. -/
def fractionGrain? : TimeUnit → Option Grain
  | nanosecond => none
  | microsecond | millisecond | second | minute => some .nanosecond
  | _ => some .second

end TimeUnit

/-- How many nanoseconds a grain lasts. -/
def Grain.nanoseconds : Grain → Nat
  | nanosecond => 1
  | second => 1_000_000_000

/-- How many grains a unit lasts. -/
def TimeUnit.grains (u : TimeUnit) (g : Grain) : Nat := u.nanoseconds / g.nanoseconds

end CriteriaStore
