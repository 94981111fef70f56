/-!
# Decimals near a binary number

A finite floating number is `m · 2^q`. The reals that round to it form an interval around it; this
module picks decimals from that interval by exact arithmetic.

* `shortest` takes the fewest digits that read back, and of those the nearest.
-/

namespace CriteriaStore

/-- The decimal number `digits · 10^exponent`. -/
structure Decimal where
  digits : Nat
  exponent : Int
  deriving Repr, DecidableEq

namespace Decimal

/-- Which way a point halfway between two decimals goes. -/
inductive Tie where
  /-- To the decimal further from zero. -/
  | away
  /-- To the decimal with the even last digit. -/
  | even
  deriving Repr, DecidableEq

/-- The decimal digits, first digit first. -/
def chars (d : Decimal) : List Char := Nat.toDigits 10 d.digits

/-- The power of ten of the first digit. -/
def leading (d : Decimal) : Int := d.exponent + (d.chars.length : Int) - 1

/-- The same number without trailing zeros among its digits; at most `fuel` zeros are dropped. -/
def strip : Nat → Decimal → Decimal
  | 0, d => d
  | fuel + 1, d =>
    if d.digits ≠ 0 ∧ d.digits % 10 = 0 then strip fuel ⟨d.digits / 10, d.exponent + 1⟩ else d

/-- A positive number and the interval of reals that round to it, as fractions over one denominator. -/
structure Interval where
  low : Nat
  mid : Nat
  high : Nat
  denominator : Nat
  /-- Whether the two ends round to the number as well. -/
  closed : Bool

/-- The interval of the positive double with the given bit pattern (sign bit ignored). -/
def Interval.ofBits (bits : UInt64) : Interval :=
  let fraction : Nat := bits.toNat % Nat.pow 2 52
  let biased : Nat := bits.toNat / Nat.pow 2 52 % Nat.pow 2 11
  let m : Nat := if biased = 0 then fraction else fraction + Nat.pow 2 52
  let q : Int := (if biased = 0 then 1 else (biased : Int)) - 1075
  -- below a power of two the neighbours are twice as close
  let gap := if fraction = 0 ∧ 1 < biased then 1 else 2
  let up := Nat.pow 2 (q - 2).toNat
  { low := (4 * m - gap) * up
    mid := 4 * m * up
    high := (4 * m + 2) * up
    denominator := Nat.pow 2 (2 - q).toNat
    closed := m % 2 = 0 }

/-- The same interval in units of `10^e`; its denominator is then the grid step. -/
def Interval.inUnits (i : Interval) (e : Int) : Interval :=
  let up := Nat.pow 10 (-e).toNat
  { i with
    low := i.low * up
    mid := i.mid * up
    high := i.high * up
    denominator := i.denominator * Nat.pow 10 e.toNat }

/-- Whether a whole number of units rounds to the number. -/
def Interval.holds (i : Interval) (d : Nat) : Bool :=
  let x := d * i.denominator
  if i.closed then decide (i.low ≤ x ∧ x ≤ i.high) else decide (i.low < x ∧ x < i.high)

/-- How often a fraction has to be multiplied by ten to reach one. -/
def leadingZeros (numerator denominator : Nat) : Nat → Nat
  | 0 => 0
  | fuel + 1 =>
    if numerator * 10 < denominator then leadingZeros (numerator * 10) denominator fuel + 1 else 0

/-- The `k` with `10^(k-1) ≤ mid < 10^k`. -/
def Interval.magnitude (i : Interval) : Int :=
  if i.denominator ≤ i.mid then ((Nat.toDigits 10 (i.mid / i.denominator)).length : Int)
  else -((leadingZeros i.mid i.denominator 400 : Nat) : Int)

/-- The neighbour of the number on a grid that rounds to it, the nearer one when both do. -/
def Interval.neighbour? (i : Interval) (tie : Tie) : Option Nat :=
  let below := i.mid / i.denominator
  let above := below + 1
  match i.holds below, i.holds above with
  | false, false => none
  | true, false => some below
  | false, true => some above
  | true, true =>
    match compare (i.mid - below * i.denominator) (above * i.denominator - i.mid) with
    | .lt => some below
    | .gt => some above
    | .eq =>
      match tie with
      | .away => some above
      | .even => some (if below % 2 = 0 then below else above)

/-- The first grid of `n`, `n + 1`, … digits with a decimal that rounds to the number. -/
def Interval.search (i : Interval) (tie : Tie) (n : Nat) : Nat → Decimal
  | 0 =>
    let e := i.magnitude - n
    let u := i.inUnits e
    ⟨u.mid / u.denominator, e⟩
  | fuel + 1 =>
    let e := i.magnitude - n
    match (i.inUnits e).neighbour? tie with
    | some d => ⟨d, e⟩
    | none => i.search tie (n + 1) fuel

/-- The decimal with the fewest digits that reads back as the magnitude of a finite float. -/
def shortest (tie : Tie) (x : Float) : Decimal :=
  let bits := x.toBits
  if bits.toNat % Nat.pow 2 63 = 0 then ⟨0, 0⟩
  else strip 20 ((Interval.ofBits bits).search tie 1 17)

/-- Whether the sign bit is set. -/
def isNegative (x : Float) : Bool := x.toBits.toNat / Nat.pow 2 63 == 1

end Decimal

end CriteriaStore
