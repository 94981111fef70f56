import CriteriaStore.Yaml.Token.Block
import CriteriaStore.Yaml.Token.Plain
import CriteriaStore.Yaml.Token.Quoted
import CriteriaStore.Yaml.Token.Tag
/-!
# The tokens of a text

The text is read token by token (`Scan.step`). Whether a piece is the key of a member shows only at the colon after
it, so tokens wait in a queue until it is certain that no key starts at the first of them (`Scan.isHeld`). The
indentation decides where block collections start and end.
-/

namespace CriteriaStore.Yaml

/-- A piece that may turn out to be a key. -/
structure PossibleKey where
  /-- The number of its first token. -/
  number : Nat
  start : Mark
  /-- Whether it can be nothing else. -/
  required : Bool
  deriving Repr

/-- A key has to end on its line, and within so many bytes. -/
def PossibleKey.isStale (k : PossibleKey) (m : Mark) : Bool :=
  decide (k.start.line < m.line) || decide (k.start.offset + 1024 < m.offset)

/-- What has been read and what is to come. -/
structure Scan where
  cursor : Cursor
  /-- The column of the innermost block collection, and those of the ones around it. -/
  indent : Option Nat := none
  indents : List (Option Nat) := []
  /-- The possible key in the innermost flow collection, and those in the ones around it. -/
  key : Option PossibleKey := none
  outerKeys : List (Option PossibleKey) := []
  /-- Whether a key may start here. -/
  mayStartKey : Bool := true
  /-- The tokens that wait. -/
  queue : List Token := []
  /-- How many tokens have left the queue. -/
  taken : Nat := 0

namespace Scan

/-- Whether a flow collection is open. -/
def inFlow (s : Scan) : Bool := !s.outerKeys.isEmpty

/-- The position reached. -/
def mark (s : Scan) : Mark := s.cursor.mark

/-- With one more token. -/
def push (s : Scan) (lexeme : Lexeme) (start : Mark) : Scan := { s with queue := s.queue ++ [⟨lexeme, start⟩] }

/-- With a token put before the one of a number. -/
def insert (s : Scan) (number : Nat) (lexeme : Lexeme) (start : Mark) : Scan :=
  { s with queue := s.queue.insertIdx (number - s.taken) ⟨lexeme, start⟩ }

/-- Whether what is inside a column is deeper than the innermost block collection. -/
def isDeeper (s : Scan) (column : Nat) : Bool := s.indent.all (· < column)

/-- With a block collection at a column, unless one is there already. Its token comes before the one of a number, or
last. -/
def openBlock (s : Scan) (column : Nat) (number : Option Nat) (lexeme : Lexeme) (start : Mark) : Scan :=
  if s.inFlow || !s.isDeeper column then s
  else
    let s := { s with indent := some column, indents := s.indent :: s.indents }
    match number with
    | some n => s.insert n lexeme start
    | none => s.push lexeme start

/-- With the block collections closed whose column is right of a column, or all of them. -/
def closeBlocks (s : Scan) (column : Option Nat) : Scan :=
  if s.inFlow then s
  else
    let columns := s.indent :: s.indents
    let isInner (c : Option Nat) : Bool := c.any fun c => column.all (· < c)
    let closed := (columns.takeWhile isInner).map fun _ => Token.mk .blockEnd s.mark
    let left := columns.dropWhile isInner
    { s with indent := left.head?.join, indents := left.tail, queue := s.queue ++ closed }

/-- Without the possible keys that can no longer be one. -/
def dropStale (s : Scan) : Except SyntaxError Scan :=
  match (s.key :: s.outerKeys).findSome? fun k => k.filter fun k => k.isStale s.mark && k.required with
  | some k => Activity.simpleKey.fails k.start .missingColon s.mark
  | none =>
    let fresh (k : Option PossibleKey) := k.filter fun k => !k.isStale s.mark
    .ok { s with key := fresh s.key, outerKeys := s.outerKeys.map fresh }

/-- Without the possible key of the innermost collection. -/
def dropKey (s : Scan) : Except SyntaxError Scan :=
  match s.key with
  | some k =>
    if k.required then Activity.simpleKey.fails k.start .missingColon s.mark else .ok { s with key := none }
  | none => .ok s

/-- With a possible key that starts here, if one may. -/
def saveKey (s : Scan) : Except SyntaxError Scan :=
  if s.mayStartKey then
    match s.dropKey with
    | .error e => .error e
    | .ok s =>
      let required := !s.inFlow && s.indent == some s.mark.column
      .ok { s with key := some ⟨s.taken + s.queue.length, s.mark, required⟩ }
  else .ok s

/-- Whether a key may start at the first token that waits. -/
def isHeld (s : Scan) : Bool := (s.key :: s.outerKeys).any fun k => k.any (·.number == s.taken)

/-- The place after blanks, comments and line breaks, and whether a key may start there. Outside of flow collections
one may after a line break, and where one may, tabs are no blanks. -/
def skipGap (inFlow mayStartKey inComment : Bool) (m : Mark) : List Char → Bool × Cursor
  | [] => (mayStartKey, ⟨m, []⟩)
  | c :: rest =>
    if isBreak c then skipGap inFlow (mayStartKey || !inFlow) false (m.after c) rest
    else if inComment || c == '#' then skipGap inFlow mayStartKey true (m.after c) rest
    else if c == ' ' || (c == '\t' && (inFlow || !mayStartKey)) || (c == '\ufeff' && m.column == 0) then
      skipGap inFlow mayStartKey false (m.after c) rest
    else (mayStartKey, ⟨m, c :: rest⟩)

/-- At the start of the next token. -/
def skipToToken (s : Scan) : Scan :=
  let (mayStartKey, cursor) := skipGap s.inFlow s.mayStartKey false s.mark s.cursor.rest
  { s with cursor, mayStartKey }

/-- With a token of a number of characters. -/
def take (s : Scan) (lexeme : Lexeme) (length : Nat) : Scan :=
  { s.push lexeme s.mark with cursor := s.cursor.skip length }

/-- After a token that has been read. -/
def finish (s : Scan) : Except SyntaxError (Lexeme × Cursor) → Except SyntaxError Scan
  | .ok (lexeme, c) => .ok { s.push lexeme s.mark with cursor := c }
  | .error e => .error e

/-- The end of the text, which ends all that is open. -/
def endText (s : Scan) : Except SyntaxError Scan := do
  let m := s.mark
  let s := if m.column = 0 then s
    else { s with cursor := ⟨{ m with line := m.line + 1, column := 0 }, []⟩ }
  let s ← (s.closeBlocks none).dropKey
  return { s with mayStartKey := false }.push .textEnd s.mark

/-- A directive. -/
def directive (s : Scan) : Except SyntaxError Scan := do
  let s ← (s.closeBlocks none).dropKey
  { s with mayStartKey := false }.finish (readDirective s.cursor)

/-- The start or the end of a document. -/
def documentMark (s : Scan) (lexeme : Lexeme) : Except SyntaxError Scan := do
  let s ← (s.closeBlocks none).dropKey
  return { s with mayStartKey := false }.take lexeme 3

/-- The start of a flow collection. -/
def openFlow (s : Scan) (lexeme : Lexeme) : Except SyntaxError Scan := do
  let s ← s.saveKey
  return { s with key := none, outerKeys := s.key :: s.outerKeys, mayStartKey := true }.take lexeme 1

/-- The end of a flow collection. -/
def closeFlow (s : Scan) (lexeme : Lexeme) : Except SyntaxError Scan := do
  let s ← s.dropKey
  let s := match s.outerKeys with
    | k :: rest => { s with key := k, outerKeys := rest }
    | [] => s
  return { s with mayStartKey := false }.take lexeme 1

/-- The comma of a flow collection. -/
def comma (s : Scan) : Except SyntaxError Scan := do
  let s ← s.dropKey
  return { s with mayStartKey := true }.take .comma 1

/-- The dash before an item. -/
def item (s : Scan) : Except SyntaxError Scan :=
  if !s.inFlow && !s.mayStartKey then .error { problem := .misplacedItem, place := s.mark }
  else do
    let s ← (s.openBlock s.mark.column none .blockList s.mark).dropKey
    return { s with mayStartKey := true }.take .item 1

/-- The question mark before a key. -/
def keyMark (s : Scan) : Except SyntaxError Scan :=
  if !s.inFlow && !s.mayStartKey then .error { problem := .misplacedKey, place := s.mark }
  else do
    let s ← (s.openBlock s.mark.column none .blockMembers s.mark).dropKey
    return { s with mayStartKey := !s.inFlow }.take .key 1

/-- The colon before a value. It shows that the possible key is one. -/
def colon (s : Scan) : Except SyntaxError Scan :=
  match s.key with
  | some k =>
    let s := (s.insert k.number .key k.start).openBlock k.start.column (some k.number) .blockMembers k.start
    .ok ({ s with key := none, mayStartKey := false }.take .value 1)
  | none =>
    if !s.inFlow && !s.mayStartKey then .error { problem := .misplacedValue, place := s.mark }
    else
      let s := s.openBlock s.mark.column none .blockMembers s.mark
      .ok ({ s with mayStartKey := !s.inFlow }.take .value 1)

/-- An anchor or an alias. -/
def name (s : Scan) (activity : Activity) (lexeme : String → Lexeme) : Except SyntaxError Scan := do
  let s ← s.saveKey
  { s with mayStartKey := false }.finish ((readName activity s.cursor).map fun (n, c) => (lexeme n, c))

/-- A tag. -/
def tag (s : Scan) : Except SyntaxError Scan := do
  let s ← s.saveKey
  { s with mayStartKey := false }.finish (readTag s.inFlow s.cursor)

/-- A block text. -/
def blockText (s : Scan) (folded : Bool) : Except SyntaxError Scan := do
  let s ← s.dropKey
  { s with mayStartKey := true }.finish
    ((readBlock folded s.indent s.cursor).map fun (text, c) => (.scalar text false, c))

/-- A quoted text. -/
def quotedText (s : Scan) (quote : Char) : Except SyntaxError Scan := do
  let s ← s.saveKey
  { s with mayStartKey := false }.finish
    ((readQuoted quote s.cursor).map fun (text, c) => (.scalar text false, c))

/-- A plain text. -/
def plainText (s : Scan) : Except SyntaxError Scan := do
  let s ← s.saveKey
  let p ← readPlain s.inFlow (s.indent.elim 0 (· + 1)) s.cursor
  { s with mayStartKey := p.broken }.finish (.ok (.scalar p.text true, p.cursor))

/-- The scan after one more token. -/
def step (s : Scan) : Except SyntaxError Scan := do
  let s ← s.skipToToken.dropStale
  let s := s.closeBlocks (some s.mark.column)
  let c := s.cursor
  match c.rest with
  | [] => s.endText
  | x :: rest =>
    if c.mark.column == 0 && x == '%' then s.directive
    else if c.isLineOf '-' then s.documentMark .documentStart
    else if c.isLineOf '.' then s.documentMark .documentEnd
    else if x == '[' then s.openFlow .flowList
    else if x == '\x7b' then s.openFlow .flowMembers
    else if x == ']' then s.closeFlow .flowListEnd
    else if x == '\x7d' then s.closeFlow .flowMembersEnd
    else if x == ',' then s.comma
    else if x == '-' && endsWord rest then s.item
    else if x == '?' && (s.inFlow || endsWord rest) then s.keyMark
    else if x == ':' && (s.inFlow || endsWord rest) then s.colon
    else if x == '*' then s.name .reference .reference
    else if x == '&' then s.name .anchor .anchor
    else if x == '!' then s.tag
    else if !s.inFlow && x == '|' then s.blockText false
    else if !s.inFlow && x == '>' then s.blockText true
    else if x == '\'' || x == '"' then s.quotedText x
    else if startsPlain s.inFlow c.rest then s.plainText
    else Activity.nextToken.fails s.mark .unknownStart s.mark

/-- The tokens from a scan on, after those read so far in reverse, and the error that ends them, if one does. -/
def tokens : Nat → Scan → List Token → List Token × Option SyntaxError
  | 0, _, acc => (acc.reverse, none)
  | fuel + 1, s, acc =>
    let advance (s : Scan) := match s.step with
      | .ok s => tokens fuel s acc
      | .error e => (acc.reverse, some e)
    match s.queue with
    | [] => advance s
    | t :: queue =>
      match s.dropStale with
      | .error e => (acc.reverse, some e)
      | .ok s =>
        if s.isHeld then advance s
        else if t.lexeme = .textEnd then ((t :: acc).reverse, none)
        else tokens fuel { s with queue, taken := s.taken + 1 } (t :: acc)

end Scan

/-- The tokens of a text, and the error that ends them, if one does. -/
def tokens (text : String) : List Token × Option SyntaxError :=
  match forbiddenAt? 0 text.toList with
  | some offset => ([], some { problem := .forbiddenCharacter offset, place := {} })
  | none =>
    let cs := unifyBreaks text.toList
    Scan.tokens (8 * cs.length + 8) { cursor := ⟨{}, cs⟩ } []

end CriteriaStore.Yaml
