/-!
# Numeric escapes

Characters given by the hexadecimal digits of their code points.
-/

namespace CriteriaStore.Text

/-- The value of a hexadecimal digit, in either case. -/
def hexValue? (c : Char) : Option Nat :=
  if '0' ≤ c ∧ c ≤ '9' then some (c.toNat - 48)
  else if 'a' ≤ c ∧ c ≤ 'f' then some (c.toNat - 87)
  else if 'A' ≤ c ∧ c ≤ 'F' then some (c.toNat - 55)
  else none

/-- The number that a given count of hexadecimal digits says, and what follows them. -/
def readHex? : Nat → Nat → List Char → Option (Nat × List Char)
  | 0, n, cs => some (n, cs)
  | _ + 1, _, [] => none
  | k + 1, n, c :: cs => (hexValue? c).bind fun d => readHex? k (16 * n + d) cs

/-- The character whose code point a given count of hexadecimal digits says, and what follows them. -/
def readCodePoint? (count : Nat) (cs : List Char) : Option (Char × List Char) :=
  match readHex? count 0 cs with
  | some (n, rest) => if n.isValidChar then some (Char.ofNat n, rest) else none
  | none => none

end CriteriaStore.Text
