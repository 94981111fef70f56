import CriteriaStore.Config.Setting
import CriteriaStore.Decimal.Reading
import CriteriaStore.OrderedMap
import CriteriaStore.Text.Blank
import CriteriaStore.Text.Escape
/-!
# Values of environment variables

The text of a variable says a setting: a truth value, a number, a text between double quotes, a character between
single quotes, a list in brackets, a set of members in braces, or else plain text without the blanks around it. A
text that breaks these rules is taken as it stands.
-/

namespace CriteriaStore.EnvironmentValue

/-- White space between tokens. -/
def isBlank (c : Char) : Bool := c == ' ' || c == '\t' || c == '\n' || c == '\x0c' || c == '\r'

/-- The text from its first token on. -/
def skipBlank (cs : List Char) : List Char := cs.dropWhile isBlank

/-- What may stand in plain text. -/
def isPlain (c : Char) : Bool :=
  !(c == ',' || c == '\x7b' || c == '\x7d' || c == '[' || c == ']')

/-- What a member's name consists of when it is not quoted. -/
def isNameChar (c : Char) : Bool := c.isAlphanum || c == '_' || c == '-'

/-- What may stand between double quotes: anything but controls, of which the tab is allowed. -/
def isQuotable (c : Char) : Bool := c == '\t' || (' ' ≤ c && c != '\x7f')

/-- The rest of a quoted text after its opening quote, with the characters read so far in reverse. -/
def readQuoted? : Nat → List Char → List Char → Option (String × List Char)
  | 0, _, _ => none
  | _ + 1, _, [] => none
  | fuel + 1, acc, c :: rest =>
    if c == '"' then some (String.ofList acc.reverse, rest)
    else if c == '\\' then
      match rest with
      | 'b' :: rest => readQuoted? fuel ('\x08' :: acc) rest
      | 'f' :: rest => readQuoted? fuel ('\x0c' :: acc) rest
      | 'n' :: rest => readQuoted? fuel ('\n' :: acc) rest
      | 'r' :: rest => readQuoted? fuel ('\r' :: acc) rest
      | 't' :: rest => readQuoted? fuel ('\t' :: acc) rest
      | '"' :: rest => readQuoted? fuel ('"' :: acc) rest
      | '\\' :: rest => readQuoted? fuel ('\\' :: acc) rest
      | 'u' :: rest => (Text.readCodePoint? 4 rest).bind fun (u, rest) => readQuoted? fuel (u :: acc) rest
      | 'U' :: rest => (Text.readCodePoint? 8 rest).bind fun (u, rest) => readQuoted? fuel (u :: acc) rest
      | _ => none
    else if isQuotable c then readQuoted? fuel (c :: acc) rest
    else none

/-- The name of a member, quoted or not, and what follows it. -/
def readName? (cs : List Char) : Option (String × List Char) :=
  match cs with
  | '"' :: rest => readQuoted? (rest.length + 1) [] rest
  | cs =>
    let name := cs.takeWhile isNameChar
    if name.isEmpty then none else some (String.ofList name, cs.dropWhile isNameChar)

/-- What a plain text says: a float when it has a point, then an integer, then a text. -/
def plain (s : String) : Setting :=
  match if s.contains '.' then Decimal.readFloat? s else none with
  | some x => .number (.float x)
  | none =>
    match Decimal.readUInt64? s with
    | some n => .number (.unsigned n)
    | none =>
      match Decimal.readInt64? s with
      | some n => .number (.negative n)
      | none => .string s

mutual

/-- A value with the blanks around it, and what follows. -/
def readValue? : Nat → List Char → Option (Setting × List Char)
  | 0, _ => none
  | fuel + 1, cs =>
    let value : Option (Setting × List Char) := match skipBlank cs with
      | 't' :: 'r' :: 'u' :: 'e' :: rest => some (.bool true, rest)
      | 'f' :: 'a' :: 'l' :: 's' :: 'e' :: rest => some (.bool false, rest)
      | '\x7b' :: rest => readMembers? fuel [] rest
      | '[' :: rest => readItems? fuel [] rest
      | '"' :: rest => (readQuoted? (rest.length + 1) [] rest).map fun (s, rest) => (.string s, rest)
      | '\'' :: c :: '\'' :: rest => some (.string c.toString, rest)
      | '\'' :: _ => none
      | cs => some (plain (Text.trim (String.ofList (cs.takeWhile isPlain))), cs.dropWhile isPlain)
    value.map fun (v, rest) => (v, skipBlank rest)

/-- The items of a list up to its bracket, with those read so far in reverse; a comma may stand after the last. -/
def readItems? : Nat → List Setting → List Char → Option (Setting × List Char)
  | 0, _, _ => none
  | fuel + 1, acc, cs =>
    match cs with
    | ']' :: rest => some (.array acc.reverse, rest)
    | cs => do
      let (v, rest) ← readValue? fuel cs
      match rest with
      | ',' :: rest => readItems? fuel (v :: acc) rest
      | ']' :: rest => some (.array (v :: acc).reverse, rest)
      | _ => none

/-- The members up to the closing brace, after those read so far; a comma may stand after the last. -/
def readMembers? : Nat → List (String × Setting) → List Char → Option (Setting × List Char)
  | 0, _, _ => none
  | fuel + 1, acc, cs =>
    match cs with
    | '\x7d' :: rest => some (.object acc, rest)
    | cs => do
      let (name, rest) ← readName? (skipBlank cs)
      match skipBlank rest with
      | '=' :: rest => do
        let (v, rest) ← readValue? fuel rest
        let acc := OrderedMap.put name v acc
        match rest with
        | ',' :: rest => readMembers? fuel acc rest
        | '\x7d' :: rest => some (.object acc, rest)
        | _ => none
      | _ => none

end

/-- The setting that the text of a variable says. -/
def read (s : String) : Setting :=
  match readValue? (2 * s.length + 2) (Text.trimChars s.toList) with
  | some (v, []) => v
  | _ => .string s

end CriteriaStore.EnvironmentValue
