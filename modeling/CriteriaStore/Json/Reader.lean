import CriteriaStore.Decimal.Reading
import CriteriaStore.Json.Value
import CriteriaStore.OrderedMap
import CriteriaStore.Text.Escape
/-!
# Reading JSON text

A recursive descent over the characters of the text. Arrays and objects nest at most `maxDepth` deep, a
repeated member keeps its first place and takes the last value, and a number too large for a float is
refused. Each step consumes a character, so the length of the text bounds the recursion.
-/

namespace CriteriaStore.Json

/-- How deep arrays and objects may nest. -/
def maxDepth : Nat := 127

/-- White space between tokens. -/
def isBlank (c : Char) : Bool := c == ' ' || c == '\t' || c == '\n' || c == '\r'

/-- The text from its first token on. -/
def skipBlank (cs : List Char) : List Char := cs.dropWhile isBlank

/-- The character of a `u` escape; the two halves of a surrogate pair must stand together. -/
def readUnicode? (cs : List Char) : Option (Char × List Char) := do
  let (n, rest) ← Text.readHex? 4 0 cs
  if 0xD800 ≤ n ∧ n < 0xDC00 then
    match rest with
    | '\\' :: 'u' :: rest => do
      let (m, rest) ← Text.readHex? 4 0 rest
      if 0xDC00 ≤ m ∧ m < 0xE000 then
        some (Char.ofNat (0x10000 + (n - 0xD800) * 0x400 + (m - 0xDC00)), rest)
      else none
    | _ => none
  else if 0xDC00 ≤ n ∧ n < 0xE000 then none
  else some (Char.ofNat n, rest)

/-- The rest of a string after its opening quote, with the characters read so far in reverse. -/
def readString? : Nat → List Char → List Char → Option (String × List Char)
  | 0, _, _ => none
  | fuel + 1, acc, cs =>
    match cs with
    | [] => none
    | '"' :: rest => some (String.ofList acc.reverse, rest)
    | '\\' :: c :: rest =>
      if c == 'u' then do
        let (u, rest) ← readUnicode? rest
        readString? fuel (u :: acc) rest
      else if c == '"' || c == '\\' || c == '/' then readString? fuel (c :: acc) rest
      else if c == 'b' then readString? fuel ('\x08' :: acc) rest
      else if c == 'f' then readString? fuel ('\x0c' :: acc) rest
      else if c == 'n' then readString? fuel ('\n' :: acc) rest
      else if c == 'r' then readString? fuel ('\r' :: acc) rest
      else if c == 't' then readString? fuel ('\t' :: acc) rest
      else none
    | c :: rest => if c.toNat < 0x20 || c == '\\' then none else readString? fuel (c :: acc) rest

/-- A float from its parts, refused when it is too large. -/
def finite? (negative : Bool) (digits : Nat) (exponent : Int) : Option Number :=
  let x := Decimal.toFloat negative digits exponent
  if x.isFinite then some (.float x) else none

/-- The number whose whole part has the given digits and no fraction or exponent. A negative zero is a
float, as is an integer outside the words. -/
def integer? (negative : Bool) (n : Nat) : Option Number :=
  if negative then
    if n = 0 then some (.float (-0.0))
    else if n ≤ Nat.pow 2 63 then some (.negative (Int64.ofInt (-n)))
    else finite? true n 0
  else if n < UInt64.size then some (.unsigned (UInt64.ofNat n))
  else finite? false n 0

/-- A number and the rest of the text. -/
def readNumber? (cs : List Char) : Option (Number × List Char) := do
  let (negative, cs) := match cs with
    | '-' :: rest => (true, rest)
    | cs => (false, cs)
  let whole := cs.takeWhile Char.isDigit
  let rest := cs.dropWhile Char.isDigit
  if whole.isEmpty || (whole.length > 1 && whole.head? == some '0') then none
  else
    let (point, fraction, rest) := match rest with
      | '.' :: r => (true, r.takeWhile Char.isDigit, r.dropWhile Char.isDigit)
      | r => (false, [], r)
    if point && fraction.isEmpty then none
    else
      let digits := Decimal.natOfDigits (whole ++ fraction)
      let shift : Int := -(fraction.length : Int)
      match rest with
      | c :: r =>
        if c == 'e' || c == 'E' then
          let (minus, r) := Decimal.splitSign r
          let power := r.takeWhile Char.isDigit
          if power.isEmpty then none
          else
            let n : Int := Decimal.natOfDigits power
            (finite? negative digits (shift + if minus then -n else n)).map (·, r.dropWhile Char.isDigit)
        else if point then (finite? negative digits shift).map (·, rest)
        else (integer? negative digits).map (·, rest)
      | [] =>
        if point then (finite? negative digits shift).map (·, [])
        else (integer? negative digits).map (·, [])

/-- The rest of the text after a given word. -/
def readWord? (word : List Char) (cs : List Char) : Option (List Char) :=
  if word.isPrefixOf cs then some (cs.drop word.length) else none

mutual

/-- A value and the rest of the text; `depth` is how much deeper arrays and objects may nest. -/
def readValue? : Nat → Nat → List Char → Option (Json × List Char)
  | 0, _, _ => none
  | fuel + 1, depth, cs =>
    match skipBlank cs with
    | 'n' :: rest => (readWord? ['u', 'l', 'l'] rest).map (null, ·)
    | 't' :: rest => (readWord? ['r', 'u', 'e'] rest).map (bool true, ·)
    | 'f' :: rest => (readWord? ['a', 'l', 's', 'e'] rest).map (bool false, ·)
    | '"' :: rest => do
      let (s, rest) ← readString? (rest.length + 1) [] rest
      some (string s, rest)
    | '[' :: rest =>
      match depth with
      | 0 => none
      | depth + 1 =>
        match skipBlank rest with
        | ']' :: rest => some (array [], rest)
        | rest => do
          let (items, rest) ← readItems? fuel depth [] rest
          some (array items, rest)
    | '\x7b' :: rest =>
      match depth with
      | 0 => none
      | depth + 1 =>
        match skipBlank rest with
        | '\x7d' :: rest => some (object [], rest)
        | rest => do
          let (members, rest) ← readMembers? fuel depth [] rest
          some (object members, rest)
    | cs => do
      let (n, rest) ← readNumber? cs
      some (number n, rest)

/-- The items of an array up to its closing bracket, with those read so far in reverse. -/
def readItems? : Nat → Nat → List Json → List Char → Option (List Json × List Char)
  | 0, _, _, _ => none
  | fuel + 1, depth, acc, cs => do
    let (v, rest) ← readValue? fuel depth cs
    match skipBlank rest with
    | ',' :: rest => readItems? fuel depth (v :: acc) rest
    | ']' :: rest => some ((v :: acc).reverse, rest)
    | _ => none

/-- The members of an object up to its closing brace, after those read so far. -/
def readMembers? : Nat → Nat → List (String × Json) → List Char →
    Option (List (String × Json) × List Char)
  | 0, _, _, _ => none
  | fuel + 1, depth, acc, cs =>
    match skipBlank cs with
    | '"' :: rest => do
      let (k, rest) ← readString? (rest.length + 1) [] rest
      match skipBlank rest with
      | ':' :: rest => do
        let (v, rest) ← readValue? fuel depth rest
        let acc := OrderedMap.put k v acc
        match skipBlank rest with
        | ',' :: rest => readMembers? fuel depth acc rest
        | '\x7d' :: rest => some (acc, rest)
        | _ => none
      | _ => none
    | _ => none

end

/-- The value of a whole text. -/
def parse? (s : String) : Option Json :=
  let cs := s.toList
  match readValue? (2 * cs.length + 2) maxDepth cs with
  | some (v, rest) => if (skipBlank rest).isEmpty then some v else none
  | none => none

end CriteriaStore.Json
