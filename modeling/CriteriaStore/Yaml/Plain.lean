import CriteriaStore.Config.Setting
import CriteriaStore.Decimal.Reading
import CriteriaStore.Text.Escape
/-!
# Plain scalars

What a text without quotes says: nothing, a truth value, an integer in one of four radixes, a float, or itself.
Digits that start with a superfluous zero are a text, unless a float is asked for.
-/

namespace CriteriaStore.Yaml

/-- A text without one leading sign of the given kind. -/
def dropSign (sign : Char) : List Char → List Char
  | c :: cs => if c = sign then cs else c :: cs
  | [] => []

/-- Whether a sign stands first. -/
def isSigned : List Char → Bool
  | c :: _ => c == '+' || c == '-'
  | [] => false

/-- The number that digits of a radix say. -/
def natOfRadix? (radix : Nat) (cs : List Char) : Option Nat :=
  if cs.isEmpty then none
  else cs.foldlM (fun n c => (Text.hexValue? c).bind fun d => if d < radix then some (radix * n + d) else none) 0

/-- Digits that start with a superfluous zero, perhaps after a sign. -/
def isPadded (cs : List Char) : Bool :=
  match cs with
  | '0' :: c :: rest => (c :: rest).all Char.isDigit
  | s :: '0' :: c :: rest => (s == '+' || s == '-') && (c :: rest).all Char.isDigit
  | _ => false

/-- The size that an unsigned numeral says: hexadecimal, octal, binary or decimal. -/
def magnitude? : List Char → Option Nat
  | '0' :: 'x' :: rest => natOfRadix? 16 rest
  | '0' :: 'o' :: rest => natOfRadix? 8 rest
  | '0' :: 'b' :: rest => natOfRadix? 2 rest
  | cs => if isPadded cs then none else natOfRadix? 10 cs

/-- An integer of up to 128 bits as a setting. -/
def ofInt? (isSigned : Bool) (n : Int) : Option Setting :=
  if isSigned then
    if -(Nat.pow 2 63 : Int) ≤ n then some (.number (.negative (Int64.ofInt n)))
    else if -(Nat.pow 2 127 : Int) ≤ n then some (.wide n) else none
  else if n < UInt64.size then some (.number (.unsigned (UInt64.ofNat n.toNat)))
  else if n < Nat.pow 2 128 then some (.wide n) else none

/-- The integer that a numeral says. -/
def integer? (s : String) : Option Setting :=
  match s.toList with
  | '-' :: rest => (magnitude? rest).bind fun n => ofInt? true (-n)
  | cs => (magnitude? (dropSign '+' cs)).bind fun n => ofInt? false n

/-- The float that a numeral says; infinities and the undefined value have names with a point. -/
def float? (s : String) : Option Float :=
  let cs := s.toList
  let unsigned := dropSign '+' cs
  let body := String.ofList unsigned
  if cs.head? == some '+' && isSigned unsigned then none
  else if body == ".inf" || body == ".Inf" || body == ".INF" then some (1.0 / 0.0)
  else if s == "-.inf" || s == "-.Inf" || s == "-.INF" then some (-1.0 / 0.0)
  else if s == ".nan" || s == ".NaN" || s == ".NAN" then some (0.0 / 0.0)
  else (Decimal.readFloat? body).filter Float.isFinite

/-- The truth value that a name says. -/
def truth? (s : String) : Option Bool :=
  if s == "true" || s == "True" || s == "TRUE" then some true
  else if s == "false" || s == "False" || s == "FALSE" then some false
  else none

/-- Whether a name says nothing. -/
def isNull (s : String) : Bool := s == "null" || s == "Null" || s == "NULL" || s == "~"

/-- What a plain text says. -/
def plain (s : String) : Setting :=
  if s.isEmpty || isNull s then .null
  else
    match truth? s with
    | some b => .bool b
    | none =>
      match integer? s with
      | some v => v
      | none =>
        match if isPadded s.toList then none else float? s with
        | some x => .number (.float x)
        | none => .string s

end CriteriaStore.Yaml
