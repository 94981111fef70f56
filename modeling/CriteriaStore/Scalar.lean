import CriteriaStore.Decimal.Layout
import CriteriaStore.Decimal.Reading
import CriteriaStore.Json.Writer
/-!
# Scalars

One stored value: nothing, a truth value, a signed word, a float or a text. `null` is also the identity of
an entity that storage has not numbered yet.

* `Scalar.parameter` is the form in which a value is bound to a statement: truth values become 0 and 1.
* `Scalar.keyText` compares identities by text, so that `1` and `"1"` agree.
-/

namespace CriteriaStore

/-- One stored value. -/
inductive Scalar where
  | null
  | bool (b : Bool)
  | int (n : Int64)
  | float (x : Float)
  | text (s : String)
  deriving Repr, BEq, Inhabited

namespace Scalar

/-- Floats are shown with the fewest digits that read back, never with an exponent. -/
def floatLayout : Decimal.Layout where
  exponentBelow := none
  exponentFrom := none
  wholeMark := false
  wholeMarkBeforeExponent := false
  exponentWidth := 1

/-- The text of a float. -/
def floatText (x : Float) : String :=
  if x.isNaN then "NaN"
  else if x.isInf then (if Decimal.isNegative x then "-inf" else "inf")
  else floatLayout.write (Decimal.isNegative x) (Decimal.shortest .away x)

/-- The value as text; `NULL` for nothing. -/
def display : Scalar → String
  | null => "NULL"
  | bool b => if b then "true" else "false"
  | int n => toString n.toInt
  | float x => floatText x
  | text s => s

/-- Whether there is no value. -/
def isNull : Scalar → Bool
  | null => true
  | _ => false

/-- The value as an integer; truth values read as 0 and 1, numerals as their value. -/
def toInt64? : Scalar → Option Int64
  | int n => some n
  | bool b => some (if b then 1 else 0)
  | text s => Decimal.readInt64? s
  | _ => none

/-- The value as a float; numerals read as the nearest one. -/
def toFloat? : Scalar → Option Float
  | float x => some x
  | int n => some n.toFloat
  | text s => Decimal.readFloat? s
  | _ => none

/-- The value as a text, if it is one. -/
def toText? : Scalar → Option String
  | text s => some s
  | _ => none

/-- The value as a truth value; 0 and 1 read as such. -/
def toBool? : Scalar → Option Bool
  | bool b => some b
  | int n => if n = 0 then some false else if n = 1 then some true else none
  | _ => none

/-- The form in which the value is bound to a statement: truth values are stored as integers. -/
def parameter : Scalar → Scalar
  | bool b => int (if b then 1 else 0)
  | v => v

/-- The text by which identities are compared, whatever their kind. -/
def keyText : Scalar → String
  | text s => s
  | v => v.display

/-- The scalar of a JSON value: integers of a signed word stay integers, other numbers become floats, and
arrays and objects are kept as their compact text. -/
def ofJson : Json → Scalar
  | .null => null
  | .bool b => bool b
  | .number n =>
    match n.toInt64? with
    | some i => int i
    | none => float n.toFloat
  | .string s => text s
  | v@(.array _) => text v.render
  | v@(.object _) => text v.render

/-- The JSON form of a scalar. -/
def toJson : Scalar → Json
  | null => .null
  | bool b => .bool b
  | int n => .int n
  | float x => if x.isFinite then .number (.float x) else .null
  | text s => .string s

end Scalar

end CriteriaStore
