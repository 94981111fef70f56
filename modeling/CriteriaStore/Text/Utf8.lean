/-!
# Bytes as text

The reading of bytes as UTF-8. Bytes that are no character are cut into the longest stretches that could have
started one; a lenient reading puts the replacement character in the place of each.
-/

namespace CriteriaStore.Text

/-- A stretch of bytes: a character, or the start of one that is not continued. -/
structure Chunk where
  char : Option Char
  /-- How many bytes it takes, at least one. -/
  length : Nat
  /-- Whether the bytes end before it does. -/
  truncated : Bool := false
  deriving Repr, DecidableEq

/-- How many bytes continue a character after its first one, with the range of the second byte. -/
def continuation? (b : Nat) : Option (Nat × Nat × Nat) :=
  if 0xC2 ≤ b ∧ b ≤ 0xDF then some (1, 0x80, 0xBF)
  else if b = 0xE0 then some (2, 0xA0, 0xBF)
  else if b = 0xED then some (2, 0x80, 0x9F)
  else if 0xE1 ≤ b ∧ b ≤ 0xEF then some (2, 0x80, 0xBF)
  else if b = 0xF0 then some (3, 0x90, 0xBF)
  else if 0xF1 ≤ b ∧ b ≤ 0xF3 then some (3, 0x80, 0xBF)
  else if b = 0xF4 then some (3, 0x80, 0x8F)
  else none

/-- The chunk whose first bytes have been read: how many are to come, the range of the next one, the code point
and the length so far. -/
def continueChunk : Nat → Nat → Nat → Nat → Nat → List UInt8 → Chunk
  | 0, _, _, code, length, _ => { char := some (Char.ofNat code), length }
  | _ + 1, _, _, _, length, [] => { char := none, length, truncated := true }
  | k + 1, low, high, code, length, b :: rest =>
    if low ≤ b.toNat ∧ b.toNat ≤ high then
      continueChunk k 0x80 0xBF (64 * code + (b.toNat - 0x80)) (length + 1) rest
    else { char := none, length }

/-- The chunk with a first byte, more bytes following. -/
def firstChunk (b : UInt8) (rest : List UInt8) : Chunk :=
  let n := b.toNat
  if n < 0x80 then { char := some (Char.ofNat n), length := 1 }
  else
    match continuation? n with
    | some (k, low, high) => continueChunk k low high (n % Nat.pow 2 (6 - k)) 1 rest
    | none => { char := none, length := 1 }

/-- Bytes cut into chunks. -/
def chunks : List UInt8 → List Chunk
  | [] => []
  | b :: rest =>
    let c := firstChunk b rest
    c :: chunks (rest.drop (c.length - 1))
termination_by bs => bs.length
decreasing_by simp only [List.length_drop, List.length_cons]; omega

/-- The text of bytes, with the replacement character for what is no character. -/
def ofBytesLenient (bs : List UInt8) : String :=
  String.ofList ((chunks bs).map fun c => c.char.getD '\uFFFD')

/-- The first chunk that is no character, with the number of bytes before it. -/
def firstFault? : Nat → List Chunk → Option (Nat × Chunk)
  | _, [] => none
  | n, c :: rest => if c.char.isNone then some (n, c) else firstFault? (n + c.length) rest

/-- The text of bytes that are all characters. -/
def ofBytes? (bs : List UInt8) : Option String :=
  ((chunks bs).mapM Chunk.char).map String.ofList

/-- The bytes of a text. -/
def bytes (s : String) : List UInt8 := s.toUTF8.toList

end CriteriaStore.Text
