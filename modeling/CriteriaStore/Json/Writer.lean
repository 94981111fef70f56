import CriteriaStore.Decimal.Layout
import CriteriaStore.Json.Value
import CriteriaStore.Text.Quoted
/-!
# Compact JSON text

No spaces, members in order, and only quotes, backslashes and controls escaped in strings.
-/

namespace CriteriaStore

/-- Floats are written with the fewest digits that read back, halves to the even digit; from `1e-5` up to
`1e16` without exponent and with at least one digit after the point. -/
def Json.floatLayout : Decimal.Layout where
  exponentBelow := some (-5)
  exponentFrom := some 16
  wholeMark := true
  wholeMarkBeforeExponent := false
  exponentWidth := 1

/-- The text of a number; what is not finite is written `null`. -/
def Number.render : Number → String
  | .unsigned n => toString n.toNat
  | .negative n => toString n.toInt
  | .float x =>
    if x.isFinite then Json.floatLayout.write (Decimal.isNegative x) (Decimal.shortest .even x) else "null"

namespace Json

/-- One character inside a string. -/
def escapeChar (c : Char) : String :=
  if c == '"' then "\\\""
  else if c == '\\' then "\\\\"
  else if c == '\x08' then "\\b"
  else if c == '\t' then "\\t"
  else if c == '\n' then "\\n"
  else if c == '\x0c' then "\\f"
  else if c == '\r' then "\\r"
  else if c.toNat < 0x20 then
    "\\u00" ++ String.ofList [Text.hexDigit (c.toNat / 16), Text.hexDigit (c.toNat % 16)]
  else c.toString

/-- A string with its quotes. -/
def renderString (s : String) : String := "\"" ++ String.join (s.toList.map escapeChar) ++ "\""

mutual

/-- The compact text of a value. -/
def render : Json → String
  | null => "null"
  | bool b => if b then "true" else "false"
  | number n => n.render
  | string s => renderString s
  | array items => "[" ++ renderItems items ++ "]"
  | object members => "\x7b" ++ renderMembers members ++ "\x7d"

/-- Items separated by commas. -/
def renderItems : List Json → String
  | [] => ""
  | [x] => render x
  | x :: y :: rest => render x ++ "," ++ renderItems (y :: rest)

/-- Members separated by commas. -/
def renderMembers : List (String × Json) → String
  | [] => ""
  | [(k, v)] => renderString k ++ ":" ++ render v
  | (k, v) :: e :: rest => renderString k ++ ":" ++ render v ++ "," ++ renderMembers (e :: rest)

end

end Json

end CriteriaStore
