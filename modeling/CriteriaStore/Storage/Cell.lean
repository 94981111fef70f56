import CriteriaStore.Decimal.Extended
import CriteriaStore.Scalar
/-!
# Cells

The values storage keeps. A cell holds nothing, an integer, a real or a text, whatever its column declares;
what the column declares only decides which conversions are tried. There are no cells of bytes: no scalar is stored as one.

* `Cell.order` is the order of all cells: nothing first, then numbers by value, then texts by code point.
* `Cell.realText` is the text a real turns into.
-/

namespace CriteriaStore.Storage

/-- One stored value. -/
inductive Cell where
  | null
  | int (n : Int64)
  | real (x : Float)
  | text (s : String)
  deriving Repr, BEq, Inhabited

namespace Cell

/-- The cell of a bound value. What is not a number is stored as nothing. -/
def ofScalar : Scalar → Cell
  | .null => null
  | .bool b => int (if b then 1 else 0)
  | .int n => int n
  | .float x => if x.isNaN then null else real x
  | .text s => text s

/-- Whether the cell holds nothing. -/
def isNull : Cell → Bool
  | null => true
  | _ => false

/-- Nothing, numbers and texts, in their order. -/
def rank : Cell → Nat
  | null => 0
  | int _ => 1
  | real _ => 1
  | text _ => 2

/-- The exact value of a number, in units of `2^-1074`. -/
def units : Cell → Int
  | int n => n.toInt * Decimal.unitsOfOne
  | real x => Decimal.units x
  | _ => 0

/-- The characters of a text. -/
def content : Cell → String
  | text s => s
  | _ => ""

/-- The order of all cells. -/
def order (a b : Cell) : Ordering :=
  (compare a.rank b.rank).then ((compare a.units b.units).then (compare a.content b.content))

/-- Whether two cells stand at the same place in the order of cells. -/
def same (a b : Cell) : Bool := a.order b == .eq

/-- Reals as text have fifteen significant digits; below `1e-4` and from `1e15` on they have an exponent of
two digits, and a whole significand is followed by `.0`. -/
def realLayout : Decimal.Layout where
  exponentBelow := some (-4)
  exponentFrom := some 15
  wholeMark := true
  wholeMarkBeforeExponent := true
  exponentWidth := 2

/-- The text of a real. -/
def realText (x : Float) : String :=
  let negative := Decimal.isNegative x
  if x.isInf then (if negative then "-Inf" else "Inf")
  else
    let d := Decimal.roundedExtended 15 x
    realLayout.write (negative && d.digits ≠ 0) d

/-- The text of a cell, unless it holds nothing. -/
def toText? : Cell → Option String
  | null => none
  | int n => some (toString n.toInt)
  | real x => some (realText x)
  | text s => some s

end Cell

end CriteriaStore.Storage
