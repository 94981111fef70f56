/-!
# Floats as exact numbers

Every finite double is a whole multiple of `2^-1074`. Counting these units compares doubles with each other
and with integers without rounding; the infinities come out beyond every finite double.
-/

namespace CriteriaStore.Decimal

/-- The units of `2^-1074` in the magnitude of a double. -/
def magnitudeUnits (x : Float) : Nat :=
  let bits := x.toBits.toNat
  let fraction := bits % Nat.pow 2 52
  let biased := bits / Nat.pow 2 52 % Nat.pow 2 11
  if biased = 0 then fraction else (Nat.pow 2 52 + fraction) * Nat.pow 2 (biased - 1)

/-- The units of `2^-1074` in a double. -/
def units (x : Float) : Int :=
  if x.toBits.toNat / Nat.pow 2 63 = 1 then -(magnitudeUnits x : Int) else magnitudeUnits x

/-- The units of `2^-1074` in one. -/
def unitsOfOne : Int := Nat.pow 2 1074

/-- The integer a double is equal to, if there is one. -/
def toInt? (x : Float) : Option Int :=
  if x.isFinite && units x % unitsOfOne == 0 then some (units x / unitsOfOne) else none

end CriteriaStore.Decimal
