import CriteriaStore.Text.Visible
/-!
# Quoted text

The form in which messages quote a text: between double quotes, with a backslash before quotes and
backslashes, short escapes for the common controls, and code points for what cannot be seen.
-/

namespace CriteriaStore.Text

/-- A digit of a hexadecimal numeral, in lower case. -/
def hexDigit (n : Nat) : Char := if n < 10 then Char.ofNat (48 + n) else Char.ofNat (87 + n)

/-- The hexadecimal numeral of a number, in lower case and without leading zeros. -/
def hex (n : Nat) : String := String.ofList ((Nat.toDigits 16 n).map Char.toLower)

/-- A code point written out, as in `\u{200b}`. -/
def codePoint (c : Char) : String := "\\u\x7b" ++ hex c.toNat ++ "\x7d"

/-- One character inside a quoted text. -/
def quoteChar (c : Char) : String :=
  if c == '\x00' then "\\0"
  else if c == '\t' then "\\t"
  else if c == '\r' then "\\r"
  else if c == '\n' then "\\n"
  else if c == '\\' then "\\\\"
  else if c == '"' then "\\\""
  else if isVisible c then c.toString
  else codePoint c

/-- A text between double quotes, with escapes. -/
def quoted (s : String) : String := "\"" ++ String.join (s.toList.map quoteChar) ++ "\""

end CriteriaStore.Text
