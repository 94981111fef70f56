import CriteriaStore.Text.Escape
import CriteriaStore.Text.Utf8
/-!
# Escapes in connection strings

Bytes may be written as a percent sign and two hexadecimal digits. In parameters a plus sign stands for a space.

* `unescape_escape` says that undoing escapes gives back the bytes that were escaped.
-/

namespace CriteriaStore.Dsn

/-- The byte that two hexadecimal digits say. -/
def byteOfDigits? (a b : UInt8) : Option UInt8 := do
  let a ← Text.hexValue? (Char.ofNat a.toNat)
  let b ← Text.hexValue? (Char.ofNat b.toNat)
  some (UInt8.ofNat (16 * a + b))

/-- Bytes with their escapes undone; a percent sign without two digits stands for itself. -/
def unescape : List UInt8 → List UInt8
  | [] => []
  | [a] => [a]
  | [a, b] => [a, b]
  | p :: a :: b :: rest =>
    match if p = 0x25 then byteOfDigits? a b else none with
    | some byte => byte :: unescape rest
    | none => p :: unescape (a :: b :: rest)

/-- The upper-case hexadecimal digit of a number. -/
def digitByte (n : UInt8) : UInt8 := if n < 10 then 48 + n else 55 + n

/-- Whether a byte is a letter or a digit. -/
def isAlphanumeric (b : UInt8) : Bool := (Char.ofNat b.toNat).isAlphanum

/-- A byte written as itself when it is plain, and as an escape otherwise. -/
def escapeByte (plain : UInt8 → Bool) (b : UInt8) : List UInt8 :=
  if plain b then [b] else [0x25, digitByte (b / 16), digitByte (b % 16)]

/-- Bytes with all but the plain ones escaped. -/
def escape (plain : UInt8 → Bool) (bs : List UInt8) : List UInt8 := bs.flatMap (escapeByte plain)

theorem byteOfDigits?_digitByte (b : UInt8) :
    byteOfDigits? (digitByte (b / 16)) (digitByte (b % 16)) = some b := by
  have h : ∀ n : Fin 256, byteOfDigits? (digitByte (UInt8.ofNat n / 16)) (digitByte (UInt8.ofNat n % 16)) =
      some (UInt8.ofNat n) := by decide +kernel
  simpa using h ⟨b.toNat, b.toNat_lt⟩

theorem unescape_cons_of_ne {b : UInt8} (h : b ≠ 0x25) (rest : List UInt8) :
    unescape (b :: rest) = b :: unescape rest := by
  match rest with
  | [] => simp [unescape]
  | [c] => simp [unescape]
  | c :: d :: more => simp [unescape, h]

/-- Undoing escapes gives back the bytes, when the percent sign itself is escaped. -/
theorem unescape_escape {plain : UInt8 → Bool} (h : plain 0x25 = false) (bs : List UInt8) :
    unescape (escape plain bs) = bs := by
  induction bs with
  | nil => rfl
  | cons b rest ih =>
    rw [escape, List.flatMap_cons, ← escape, escapeByte]
    split
    · rename_i hb
      have hne : b ≠ 0x25 := fun he => by simp [he, h] at hb
      rw [List.singleton_append, unescape_cons_of_ne hne, ih]
    · simp [unescape, byteOfDigits?_digitByte, ih]

/-- The text of a name or value of a parameter. -/
def parameterText (cs : List Char) : String :=
  Text.ofBytesLenient
    (unescape (Text.bytes (String.ofList (cs.map fun c => if c == '+' then ' ' else c))))

/-- The parameters after a question mark: parts between ampersands, each cut at its first equals sign. -/
def parameters (cs : List Char) : List (String × String) :=
  ((cs.splitOn '&').filter fun part => !part.isEmpty).map fun part =>
    (parameterText (part.takeWhile (· ≠ '=')), parameterText ((part.dropWhile (· ≠ '=')).drop 1))

/-- The bytes of the value of a parameter, escaped. -/
def parameterBytes (s : String) : List UInt8 :=
  (escape (fun b => isAlphanumeric b || "*-._ ".toList.contains (Char.ofNat b.toNat)) (Text.bytes s)).map fun b =>
    if b = 0x20 then 0x2B else b

end CriteriaStore.Dsn
