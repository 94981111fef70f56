import CriteriaStore.Text.Escape
import CriteriaStore.Yaml.Error
import CriteriaStore.Yaml.Token.Folding
/-!
# Quoted texts

Texts between single or double quotes, which may go over several lines. Between single quotes only the quote itself
is special, and written twice; between double quotes a backslash starts an escape, and one at the end of a line joins
the line with the next one.
-/

namespace CriteriaStore.Yaml

/-- What an escape starts. -/
inductive Escape where
  | char (c : Char)
  /-- A code point of so many hexadecimal digits. -/
  | digits (count : Nat)

/-- The escape of a letter after a backslash. -/
def escape? : Char → Option Escape
  | '0' => some (.char '\x00')
  | 'a' => some (.char '\x07')
  | 'b' => some (.char '\x08')
  | 't' => some (.char '\t')
  | '\t' => some (.char '\t')
  | 'n' => some (.char '\n')
  | 'v' => some (.char '\x0b')
  | 'f' => some (.char '\x0c')
  | 'r' => some (.char '\r')
  | 'e' => some (.char '\x1b')
  | ' ' => some (.char ' ')
  | '"' => some (.char '"')
  | '/' => some (.char '/')
  | '\\' => some (.char '\\')
  | 'N' => some (.char '\u0085')
  | '_' => some (.char '\u00a0')
  | 'L' => some (.char '\u2028')
  | 'P' => some (.char '\u2029')
  | 'x' => some (.digits 2)
  | 'u' => some (.digits 4)
  | 'U' => some (.digits 8)
  | _ => none

/-- The character that an escape after a backslash says, and the number of characters that it takes with the
backslash. -/
def readEscape (start m : Mark) (cs : List Char) : Except SyntaxError (Char × Nat) :=
  match cs.head?.bind escape? with
  | none => Activity.escape.fails start .unknownEscape m
  | some (.char c) => .ok (c, 2)
  | some (.digits count) =>
    let place : Mark := { m with column := m.column + 2 }
    match Text.readHex? count 0 cs.tail with
    | none => Activity.escape.fails start .missingHexDigit place
    | some (n, _) =>
      if n.isValidChar then .ok (Char.ofNat n, count + 2) else Activity.escape.fails start .badCodePoint place

/-- The rest of a quoted text that starts at `start`, with the characters read so far in reverse and what has been
read since the last word. So many characters to come have been read already. -/
def readQuotedFrom (quote : Char) (start : Mark) (known : Nat) (m : Mark) (acc : List Char) (gap : Gap) :
    List Char → Except SyntaxError (String × Cursor)
  | [] => Activity.quotedText.fails start .endOfText m
  | x :: rest =>
    if known ≠ 0 then readQuotedFrom quote start (known - 1) (m.after x) acc gap rest
    else if (Cursor.mk m (x :: rest)).isDocumentMark then Activity.quotedText.fails start .documentMark m
    else if isBlank x || isBreak x then readQuotedFrom quote start 0 (m.after x) acc (gap.add x) rest
    else
      let acc := gap.text ++ acc
      if x == quote then
        if quote == '\'' && rest.head? == some '\'' then
          readQuotedFrom quote start 1 (m.after x) (x :: acc) {} rest
        else .ok (String.ofList acc.reverse, ⟨m.after x, rest⟩)
      else if quote == '"' && x == '\\' then
        if rest.head?.any isBreak then readQuotedFrom quote start 1 (m.after x) acc .escaped rest
        else
          match readEscape start m rest with
          | .ok (y, length) => readQuotedFrom quote start (length - 1) (m.after x) (y :: acc) {} rest
          | .error e => .error e
      else readQuotedFrom quote start 0 (m.after x) (x :: acc) {} rest

/-- The quoted text that starts here, and the cursor after it. -/
def readQuoted (quote : Char) (c : Cursor) : Except SyntaxError (String × Cursor) :=
  readQuotedFrom quote c.mark 0 c.next.mark [] {} c.next.rest

end CriteriaStore.Yaml
