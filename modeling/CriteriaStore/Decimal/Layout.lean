import CriteriaStore.Decimal.Shortest
/-!
# Layouts of decimals

How digits and a power of ten become text. A format of the library is one `Layout` value, kept in the
module that writes that format.
-/

namespace CriteriaStore.Decimal

/-- The decisions of one number format. -/
structure Layout where
  /-- First digits below this power of ten call for an exponent. -/
  exponentBelow : Option Int
  /-- First digits at this power of ten or above call for an exponent. -/
  exponentFrom : Option Int
  /-- Whether a whole number written without exponent ends in `.0`. -/
  wholeMark : Bool
  /-- Whether a single digit before an exponent is followed by `.0`. -/
  wholeMarkBeforeExponent : Bool
  /-- Fewest digits of the exponent. -/
  exponentWidth : Nat

/-- Whether a number with the given first power of ten is written without exponent. -/
def Layout.isPositional (l : Layout) (leading : Int) : Bool :=
  !(l.exponentBelow.any fun b => decide (leading < b)) && !(l.exponentFrom.any fun b => decide (b ≤ leading))

/-- A run of zeros. -/
private def zeros (n : Nat) : List Char := List.replicate n '0'

/-- Digits and power of ten without exponent. -/
def Layout.positional (l : Layout) (d : Decimal) : List Char :=
  let ds := d.chars
  if 0 ≤ d.exponent then
    ds ++ zeros d.exponent.toNat ++ (if l.wholeMark then ['.', '0'] else [])
  else if 0 ≤ d.leading then
    let whole := ds.length - (-d.exponent).toNat
    ds.take whole ++ '.' :: ds.drop whole
  else
    '0' :: '.' :: zeros (-d.leading - 1).toNat ++ ds

/-- Digits and power of ten with exponent; its sign is always written. -/
def Layout.scientific (l : Layout) (d : Decimal) : List Char :=
  let power := Nat.toDigits 10 d.leading.natAbs
  let sign := if d.leading < 0 then '-' else '+'
  let fraction := match d.chars.drop 1 with
    | [] => if l.wholeMarkBeforeExponent then ['.', '0'] else []
    | rest => '.' :: rest
  d.chars.take 1 ++ fraction ++ 'e' :: sign :: zeros (l.exponentWidth - power.length) ++ power

/-- The text of a signed decimal. -/
def Layout.write (l : Layout) (negative : Bool) (d : Decimal) : String :=
  String.ofList ((if negative then ['-'] else []) ++
    if l.isPositional d.leading then l.positional d else l.scientific d)

end CriteriaStore.Decimal
