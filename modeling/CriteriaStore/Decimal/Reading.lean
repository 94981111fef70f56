/-!
# Reading decimal numerals

Integers and floating numbers from text. A numeral must be the whole text: no white space, no grouping
marks. Floating numerals are rounded to the nearest double; one too large reads as an infinity.
-/

namespace CriteriaStore.Decimal

/-- The value of a list of decimal digits, most significant first. -/
def natOfDigits (ds : List Char) : Nat := ds.foldl (fun n c => 10 * n + (c.toNat - 48)) 0

/-- The value of a nonempty text of decimal digits. -/
def readNat? (ds : List Char) : Option Nat :=
  if ds.isEmpty || !ds.all Char.isDigit then none else some (natOfDigits ds)

/-- A sign, present or not, and what follows it. -/
def splitSign : List Char → Bool × List Char
  | '-' :: rest => (true, rest)
  | '+' :: rest => (false, rest)
  | cs => (false, cs)

/-- A signed decimal integer in the range of 64-bit words. -/
def readInt64? (s : String) : Option Int64 := do
  let (negative, ds) := splitSign s.toList
  let n ← readNat? ds
  let i : Int := if negative then -n else n
  if -(Nat.pow 2 63 : Int) ≤ i ∧ i < Nat.pow 2 63 then some (Int64.ofInt i) else none

/-- A decimal integer in the range of unsigned 64-bit words; a plus sign may stand before it. -/
def readUInt64? (s : String) : Option UInt64 := do
  let ds := match s.toList with
    | '+' :: rest => rest
    | cs => cs
  let n ← readNat? ds
  if n < UInt64.size then some (UInt64.ofNat n) else none

/-- The double nearest to `± digits · 10^exponent`. -/
def toFloat (negative : Bool) (digits : Nat) (exponent : Int) : Float :=
  let size : Int := (Nat.toDigits 10 digits).length
  let magnitude : Float :=
    if digits = 0 then 0
    else if 400 < exponent + size then 1.0 / 0.0
    else if exponent + size < -400 then 0
    else Float.ofScientific digits (decide (exponent < 0)) exponent.natAbs
  if negative then -magnitude else magnitude

/-- An unsigned numeral: the digits before and after the point, and the power of ten after an `e`. -/
structure Numeral where
  whole : List Char
  fraction : List Char
  exponent : Int
  deriving Repr

/-- The numeral `digits[.digits][e[sign]digits]`; a digit must stand before or after the point. -/
def Numeral.read? (cs : List Char) : Option Numeral := do
  let whole := cs.takeWhile Char.isDigit
  let rest := cs.dropWhile Char.isDigit
  let (fraction, rest) := match rest with
    | '.' :: r => (r.takeWhile Char.isDigit, r.dropWhile Char.isDigit)
    | r => ([], r)
  if whole.isEmpty && fraction.isEmpty then none
  else
    match rest with
    | [] => some ⟨whole, fraction, 0⟩
    | c :: r =>
      if c == 'e' || c == 'E' then
        let (negative, ds) := splitSign r
        let n ← readNat? ds
        some ⟨whole, fraction, if negative then -(n : Int) else n⟩
      else none

/-- The digits of an unsigned numeral as one number, and their power of ten. -/
def readUnsigned? (cs : List Char) : Option (Nat × Int) :=
  (Numeral.read? cs).map fun n => (natOfDigits (n.whole ++ n.fraction), n.exponent - n.fraction.length)

/-- A floating numeral; `inf`, `infinity` and `nan` are read in any case. -/
def readFloat? (s : String) : Option Float := do
  let (negative, cs) := splitSign s.toList
  let word := String.ofList (cs.map Char.toLower)
  if word == "inf" || word == "infinity" then some (if negative then -1.0 / 0.0 else 1.0 / 0.0)
  else if word == "nan" then some (0.0 / 0.0)
  else
    let (digits, exponent) ← readUnsigned? cs
    some (toFloat negative digits exponent)

end CriteriaStore.Decimal
