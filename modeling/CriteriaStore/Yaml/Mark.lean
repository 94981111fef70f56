/-!
# Positions and characters

A text is read character by character, with the position of each one: its line and its column, counted from zero,
and the number of bytes before it. Every kind of line break is brought to a single character first (`unifyBreaks`),
so that a break always starts a new line.
-/

namespace CriteriaStore.Yaml

/-- The characters that end a line, once breaks are unified. -/
def isBreak (c : Char) : Bool := c == '\n' || c == '\u2028' || c == '\u2029'

/-- A blank inside a line. -/
def isBlank (c : Char) : Bool := c == ' ' || c == '\t'

/-- What names of anchors, directives and tag handles consist of. -/
def isNameChar (c : Char) : Bool := c.isAlphanum || c == '_' || c == '-'

/-- The characters that part and enclose flow collections. -/
def isFlowMark (c : Char) : Bool := c == ',' || c == '[' || c == ']' || c == '\x7b' || c == '\x7d'

/-- Whether a line break, a blank or the end comes next. -/
def endsWord : List Char → Bool
  | [] => true
  | c :: _ => isBlank c || isBreak c

/-- Whether a character may stand in a text at all. -/
def isAllowed (c : Char) : Bool :=
  let n := c.toNat
  n == 0x09 || n == 0x0A || n == 0x0D || (0x20 ≤ n && n ≤ 0x7E) || n == 0x85 || (0xA0 ≤ n && n ≤ 0xD7FF)
    || (0xE000 ≤ n && n ≤ 0xFFFD) || 0x10000 ≤ n

/-- The number of bytes before the first character that may not stand in a text, counted from `offset`. -/
def forbiddenAt? (offset : Nat) : List Char → Option Nat
  | [] => none
  | c :: rest => if isAllowed c then forbiddenAt? (offset + c.utf8Size) rest else some offset

/-- The text with a line feed for each carriage return, each pair of the two and each next line character. -/
def unifyBreaks : List Char → List Char
  | [] => []
  | '\r' :: '\n' :: rest => '\n' :: unifyBreaks rest
  | c :: rest => (if c == '\r' || c == '\u0085' then '\n' else c) :: unifyBreaks rest

/-- A position in a text. -/
structure Mark where
  line : Nat := 0
  column : Nat := 0
  /-- How many bytes stand before it. -/
  offset : Nat := 0
  deriving Repr, DecidableEq, Inhabited

namespace Mark

/-- The position after a character. -/
def after (m : Mark) (c : Char) : Mark :=
  if isBreak c then { line := m.line + 1, column := 0, offset := m.offset + c.utf8Size }
  else { m with column := m.column + 1, offset := m.offset + c.utf8Size }

/-- Whether two positions are the same for a reader, who sees lines and columns. -/
def sameAs (m n : Mark) : Bool := m.line == n.line && m.column == n.column

/-- The position as messages name it, where counting starts at one. -/
def text (m : Mark) : String := "line " ++ toString (m.line + 1) ++ " column " ++ toString (m.column + 1)

/-- A remark on where something is; the start of the text is not named. -/
def remark (m : Mark) : String := if m.sameAs {} then "" else " at " ++ m.text

end Mark

/-- A text from some position on. -/
structure Cursor where
  mark : Mark := {}
  rest : List Char
  deriving Repr

namespace Cursor

/-- The cursor after the next character. -/
def next (c : Cursor) : Cursor :=
  match c.rest with
  | [] => c
  | x :: rest => ⟨c.mark.after x, rest⟩

/-- The cursor after so many characters. -/
def skip (c : Cursor) : Nat → Cursor
  | 0 => c
  | n + 1 => c.next.skip n

/-- The longest stretch of characters of a kind from a position on, and the cursor after it. -/
def spanFrom (p : Char → Bool) (m : Mark) : List Char → List Char × Cursor
  | [] => ([], ⟨m, []⟩)
  | x :: rest =>
    if p x then
      let (taken, c) := spanFrom p (m.after x) rest
      (x :: taken, c)
    else ([], ⟨m, x :: rest⟩)

/-- The longest stretch of characters of a kind, and the cursor after it. -/
def span (c : Cursor) (p : Char → Bool) : List Char × Cursor := spanFrom p c.mark c.rest

/-- The cursor after the longest stretch of characters of a kind. -/
def skipWhile (c : Cursor) (p : Char → Bool) : Cursor := (c.span p).2

/-- The next character. -/
def peek? (c : Cursor) : Option Char := c.rest.head?

/-- Whether a given character comes next. -/
def startsWith (c : Cursor) (x : Char) : Bool := c.peek? == some x

/-- The cursor after blanks and a comment. -/
def skipComment (c : Cursor) : Cursor :=
  let c := c.skipWhile isBlank
  if c.startsWith '#' then c.skipWhile fun x => !isBreak x else c

/-- The cursor after a comment and the end of its line, if nothing else stands on the line. -/
def endLine? (c : Cursor) : Option Cursor :=
  let c := c.skipComment
  match c.rest with
  | [] => some c
  | x :: _ => if isBreak x then some c.next else none

/-- Whether three equal marks stand at the start of a line, alone. -/
def isLineOf (c : Cursor) (x : Char) : Bool :=
  c.mark.column == 0 && [x, x, x].isPrefixOf c.rest && endsWord (c.rest.drop 3)

/-- Whether a document starts or ends here. -/
def isDocumentMark (c : Cursor) : Bool := c.isLineOf '-' || c.isLineOf '.'

end Cursor

end CriteriaStore.Yaml
