/-!
# JSON values

Numbers come in three kinds: those that fit an unsigned word, negative ones that fit a signed word, and
all others as floats. Objects keep the order of their members.
-/

namespace CriteriaStore

/-- A number of a JSON value. -/
inductive Number where
  | unsigned (n : UInt64)
  | negative (n : Int64)
  | float (x : Float)
  deriving Repr, Inhabited

/-- A JSON value. -/
inductive Json where
  | null
  | bool (b : Bool)
  | number (n : Number)
  | string (s : String)
  | array (items : List Json)
  | object (members : List (String × Json))
  deriving Repr, Inhabited

namespace Number

/-- The number as a signed word, when it is an integer in that range. -/
def toInt64? : Number → Option Int64
  | unsigned n => if n.toNat < Nat.pow 2 63 then some (Int64.ofNat n.toNat) else none
  | negative n => some n
  | float _ => none

/-- The number as an unsigned word, when it is an integer in that range. -/
def toUInt64? : Number → Option UInt64
  | unsigned n => some n
  | negative _ => none
  | float _ => none

/-- The nearest float. -/
def toFloat : Number → Float
  | unsigned n => n.toFloat
  | negative n => n.toFloat
  | float x => x

/-- An integer as a number. -/
def ofInt64 (n : Int64) : Number := if n < 0 then negative n else unsigned n.toUInt64

end Number

namespace Json

/-- An integer as a value. -/
def int (n : Int64) : Json := number (.ofInt64 n)

/-- A natural word as a value. -/
def word (n : UInt64) : Json := number (.unsigned n)

/-- A value, or `null` for an absent one. -/
def ofOption (x : Option Json) : Json := x.getD null

/-- The first member of an object with the given name. -/
def member? (name : String) : List (String × Json) → Option Json
  | [] => none
  | (k, v) :: rest => if k = name then some v else member? name rest

end Json

end CriteriaStore
