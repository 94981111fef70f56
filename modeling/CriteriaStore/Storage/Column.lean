import CriteriaStore.Storage.Cell
/-!
# Columns

What a column declares, and the conversions that follow from it: of a value that is written to the column
(`ColumnType.store`), of a value the column is compared with (`ColumnType.comparand`), and of a cell that is read
from it (`ColumnType.read?`).
-/

namespace CriteriaStore.Storage

/-- The declared type of a column. -/
inductive ColumnType where
  | integer
  | real
  | text
  | boolean
  /-- No type is declared. -/
  | untyped
  deriving Repr, DecidableEq

/-- White space around a numeral. -/
def isNumeralBlank (c : Char) : Bool := c == ' ' || (0x09 ≤ c.toNat && c.toNat ≤ 0x0D)

/-- A text as a number: blanks around it are dropped, and it may have a sign, a fraction and an exponent.
Digits alone are an integer if they fit one. -/
def numeral? (s : String) : Option Cell :=
  let trimmed := ((s.toList.dropWhile isNumeralBlank).reverse.dropWhile isNumeralBlank).reverse
  match Decimal.readInt64? (String.ofList trimmed) with
  | some n => some (.int n)
  | none =>
    let (negative, cs) := Decimal.splitSign trimmed
    (Decimal.Numeral.read? cs).map fun m => .real (if negative then -m.magnitude else m.magnitude)

/-- A real as an integer, if it is one strictly between the smallest and the largest. -/
def wholeReal (x : Float) : Cell :=
  match Decimal.toInt? x with
  | some n => if -(Nat.pow 2 63 : Int) < n ∧ n < (Nat.pow 2 63 : Int) - 1 then .int (Int64.ofInt n) else .real x
  | none => .real x

namespace ColumnType

/-- A value as a column of the type keeps it. -/
def store (t : ColumnType) (c : Cell) : Cell :=
  match t, c with
  | text, .int n => .text (toString n.toInt)
  | text, .real x => .text (Cell.realText x)
  | text, c | untyped, c => c
  | _, .null => .null
  | real, c => asReal (whole c)
  | _, c => whole c
where
  /-- Numerals and whole reals as integers where that loses nothing. -/
  whole : Cell → Cell
    | .real x => wholeReal x
    | .text s =>
      match numeral? s with
      | some (.real x) => wholeReal x
      | some c => c
      | none => .text s
    | c => c
  /-- Integers as reals. -/
  asReal : Cell → Cell
    | .int n => .real n.toFloat
    | c => c

/-- A value as it is compared with a column of the type: as text with a text column, as it is with an untyped one, and as
a number with any other, if it reads as one. -/
def comparand (t : ColumnType) (c : Cell) : Cell :=
  match t, c with
  | text, .int n => .text (toString n.toInt)
  | text, .real x => .text (Cell.realText x)
  | text, c | untyped, c => c
  | _, .text s => (numeral? s).getD (.text s)
  | _, c => c

/-- The scalar read from a column of the type. An integer column that holds a real has none to offer, and
neither has a real column that holds an integer, nor an untyped one that holds a number. -/
def read? (t : ColumnType) (c : Cell) : Option Scalar :=
  match t, c with
  | _, .null => some .null
  | _, .text s => some (.text s)
  | integer, .int n => some (.int n)
  | boolean, .int n => some (.bool (n ≠ 0))
  | real, .real x => some (.float x)
  | _, _ => none

end ColumnType

/-- What happens to an open transaction when a unique value is taken. -/
inductive ConflictEffect where
  /-- The statement fails and the transaction stays open. -/
  | statement
  /-- The statement fails and the transaction is rolled back. -/
  | transaction
  deriving Repr, DecidableEq

/-- A declared column. -/
structure Column where
  name : String
  type : ColumnType
  /-- Whether the column must have a value. -/
  required : Bool := false
  /-- Whether values must differ, and the effect of a conflict. -/
  unique : Option ConflictEffect := none
  /-- The table whose key the column refers to, by a reference that may stay open until the end of a transaction. -/
  references : Option String := none
  deriving Repr, DecidableEq

end CriteriaStore.Storage
