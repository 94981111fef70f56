import CriteriaStore.Decimal.Exact
import CriteriaStore.Decimal.Reading
import CriteriaStore.Decimal.Shortest
/-!
# Decimals by extended floats

Numbers with a significand of 64 bits, and the conversions between doubles and decimals that multiply such numbers
by powers of ten, a hundred, ten or one power at a time. Each product is rounded, so the results can differ in the
last digit from the exact ones.
-/

namespace CriteriaStore.Decimal

/-- The number `significand · 2^exponent`. -/
structure Extended where
  significand : Nat
  exponent : Int
  deriving Repr, DecidableEq

namespace Extended

/-- A fraction rounded to a whole number, a half going to the even one. -/
def nearest (numerator denominator : Nat) : Nat :=
  let q := numerator / denominator
  let twice := 2 * (numerator % denominator)
  if denominator < twice ∨ (twice = denominator ∧ q % 2 = 1) then q + 1 else q

/-- A positive fraction with a significand of 64 bits. -/
def ofFraction (numerator denominator : Nat) : Extended :=
  let scaled (k : Int) : Nat × Nat := (numerator * Nat.pow 2 k.toNat, denominator * Nat.pow 2 (-k).toNat)
  let k : Int := 64 - ((numerator.log2 : Int) - denominator.log2)
  let (n, d) := scaled k
  if n < UInt64.size * d then ⟨nearest n d, -k⟩
  else
    let (n, d) := scaled (k - 1)
    ⟨nearest n d, 1 - k⟩

/-- A whole number. -/
def ofNat (n : Nat) : Extended := if n = 0 then ⟨0, 0⟩ else ofFraction n 1

/-- The rounded product. -/
def mul (a b : Extended) : Extended :=
  let n := a.significand * b.significand
  if n = 0 then ⟨0, 0⟩
  else
    let c := ofFraction n 1
    ⟨c.significand, c.exponent + a.exponent + b.exponent⟩

/-- The rounded power of ten. -/
def powerOfTen (k : Int) : Extended := ofFraction (Nat.pow 10 k.toNat) (Nat.pow 10 (-k).toNat)

/-- Whether a number is less than a whole multiple of a power of ten. -/
def lessThan (a : Extended) (n : Nat) (power : Int) : Bool :=
  a.significand * Nat.pow 2 a.exponent.toNat * Nat.pow 10 (-power).toNat
    < n * Nat.pow 10 power.toNat * Nat.pow 2 (-a.exponent).toNat

/-- The whole part. -/
def floor (a : Extended) : Nat := a.significand * Nat.pow 2 a.exponent.toNat / Nat.pow 2 (-a.exponent).toNat

/-- A number times a power of ten, in steps; the power comes with its magnitude and its sign. -/
def scale (a : Extended) (negative : Bool) (power : Nat) : Extended :=
  let step (k : Nat) (a : Extended) : Extended := a.mul (powerOfTen (if negative then -(k : Int) else k))
  Nat.repeat (step 1) (power % 10) (Nat.repeat (step 10) (power / 10 % 10) (Nat.repeat (step 100) (power / 100) a))

/-- The nearest double; what exceeds the largest one is an infinity. -/
def toFloat (a : Extended) : Float :=
  if (Nat.pow 2 53 - 1) * Nat.pow 2 971 < a.floor then 1.0 / 0.0
  else if 0 ≤ a.exponent then Float.ofScientific (a.significand * Nat.pow 2 a.exponent.toNat) false 0
  else if a.exponent < -1400 then 0
  else Float.ofScientific (a.significand * Nat.pow 5 (-a.exponent).toNat) true (-a.exponent).toNat

/-- Steps towards a bound: as often as a test holds, at most `fuel` times, a power of ten is multiplied in and the
powers are counted. -/
def climb (test : Extended → Bool) (power : Int) : Nat → Extended × Int → Extended × Int
  | 0, s => s
  | fuel + 1, (a, count) =>
    if test a then climb test power fuel (a.mul (powerOfTen power), count + power) else (a, count)

/-- A positive number brought between `10^17` and `10^19`, with the power of ten that was multiplied in. -/
def normalized (a : Extended) : Extended × Int :=
  if a.lessThan 1 19 then
    climb (·.lessThan 1 17) 1 20
      (climb (·.lessThan 1 7) 10 20 (climb (·.lessThan 1 (-97)) 100 20 (a, 0)))
  else
    climb (fun a => !a.lessThan 1 19) (-1) 20
      (climb (fun a => !a.lessThan 1 29) (-10) 20 (climb (fun a => !a.lessThan 1 119) (-100) 20 (a, 0)))

end Extended

/-- A bound on significands: at it no further digits are taken in. -/
def significandBound : Nat := (UInt64.size - 10) / 10

/-- The significand of the digits before the point, and the power of ten of the digits that it has no room for. -/
def takeWhole (ds : List Char) : Nat × Nat :=
  ds.foldl (fun (n, dropped) c =>
    if n < significandBound then (10 * n + (c.toNat - 48), dropped) else (n, dropped + 1)) (0, 0)

/-- A significand with the digits after the point that it has room for, and how many they are. -/
def takeFraction (n : Nat) (ds : List Char) : Nat × Nat :=
  ds.foldl (fun (n, taken) c =>
    if n < significandBound then (10 * n + (c.toNat - 48), taken + 1) else (n, taken)) (n, 0)

/-- A significand with as many powers of ten moved into it as fit, at most `fuel`. -/
def absorb : Nat → Nat → Nat → Nat × Nat
  | 0, n, power => (n, power)
  | fuel + 1, n, power =>
    if 0 < power ∧ n < (UInt64.size - 1) / 10 then absorb fuel (10 * n) (power - 1) else (n, power)

/-- A significand with as many zeros at its end dropped as there are negative powers of ten, at most `fuel`. -/
def release : Nat → Nat → Nat → Nat × Nat
  | 0, n, power => (n, power)
  | fuel + 1, n, power =>
    if 0 < power ∧ n % 10 = 0 then release fuel (n / 10) (power - 1) else (n, power)

/-- A power of ten as it is counted: of one with more than five digits only its sign matters. -/
def boundedPower (power : Int) : Int := if power.natAbs < 100000 then power else power.sign * 10000

/-- The magnitude of a numeral. -/
def Numeral.magnitude (m : Numeral) : Float :=
  let (n, dropped) := takeWhole m.whole
  let (n, taken) := takeFraction n m.fraction
  let power := boundedPower m.exponent + dropped - taken
  if n = 0 then 0
  else
    let negative := decide (power < 0)
    let (n, rest) := if negative then release 20 n power.natAbs else absorb 20 n power.natAbs
    if rest = 0 then (UInt64.ofNat n).toFloat else ((Extended.ofNat n).scale negative rest).toFloat

/-- The magnitude of a finite float to `n` of its first seventeen digits, a half going up. -/
def roundedExtended (n : Nat) (x : Float) : Decimal :=
  let units := magnitudeUnits x
  if units = 0 then ⟨0, 0⟩
  else
    let (a, power) := (Extended.ofFraction units (Nat.pow 2 1074)).normalized
    let all := a.floor
    let cut := (Nat.toDigits 10 all).length - n
    let kept := all / Nat.pow 10 cut
    strip 20 ⟨if 5 ≤ all / Nat.pow 10 (cut - 1) % 10 ∧ 0 < cut then kept + 1 else kept, cut - power⟩

end CriteriaStore.Decimal
