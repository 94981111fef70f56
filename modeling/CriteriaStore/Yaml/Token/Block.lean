import CriteriaStore.Yaml.Error
import CriteriaStore.Yaml.Token.Folding
/-!
# Block texts

Texts of whole indented lines, under a head that says whether lines are kept or folded, what becomes of the line
breaks at the end, and perhaps how deep the lines are indented.
-/

namespace CriteriaStore.Yaml

/-- What becomes of the line breaks at the end. -/
inductive Chomping where
  /-- All are dropped. -/
  | strip
  /-- The first one is kept. -/
  | clip
  | keep
  deriving Repr, DecidableEq

/-- The chomping that a mark in the head asks for. -/
def Chomping.ofMark? : Char → Option Chomping
  | '+' => some .keep
  | '-' => some .strip
  | _ => none

/-- What the head of a block text says. -/
structure BlockHead where
  chomping : Chomping := .clip
  /-- How much deeper than what is around them the lines are indented. -/
  depth : Option Nat := none
  cursor : Cursor

/-- The chomping mark that stands here, if any. -/
def readChomping (h : BlockHead) : BlockHead :=
  match h.cursor.peek?.bind Chomping.ofMark? with
  | some chomping => { h with chomping, cursor := h.cursor.next }
  | none => h

/-- The indentation digit that stands here, if any. -/
def readDepth (start : Mark) (h : BlockHead) : Except SyntaxError BlockHead :=
  match h.cursor.peek? with
  | some d =>
    if d == '0' then Activity.blockText.fails start .zeroIndent h.cursor.mark
    else if d.isDigit then .ok { h with depth := some (d.toNat - 48), cursor := h.cursor.next }
    else .ok h
  | none => .ok h

/-- The head of a block text, with its line: a chomping mark and an indentation digit in either order. -/
def readBlockHead (start : Mark) (c : Cursor) : Except SyntaxError BlockHead :=
  let marked := readChomping { cursor := c }
  match readDepth start marked with
  | .error e => .error e
  | .ok h =>
    let h := if marked.chomping = .clip then readChomping h else h
    match h.cursor.endLine? with
    | some c => .ok { h with cursor := c }
    | none => Activity.blockText.fails start .missingLineEnd h.cursor.skipComment.mark

/-- Empty lines that have been read. -/
structure EmptyLines where
  /-- Their line breaks, the last one first. -/
  breaks : List Char
  /-- The deepest indentation met. -/
  deepest : Nat
  cursor : Cursor

/-- The empty lines from a position on, and the blanks before the first line that is not empty. Blanks count up to the
indentation, if it is known. -/
def readEmptyLines (start : Mark) (indent : Option Nat) (breaks : List Char) (deepest : Nat) (m : Mark) :
    List Char → Except SyntaxError EmptyLines
  | [] => .ok ⟨breaks, max deepest m.column, ⟨m, []⟩⟩
  | c :: rest =>
    let inIndent := indent.all fun n => m.column < n
    if inIndent && c == ' ' then readEmptyLines start indent breaks deepest (m.after c) rest
    else if inIndent && c == '\t' then Activity.blockText.fails start .tabInIndent m
    else if isBreak c then
      readEmptyLines start indent (c :: breaks) (max deepest m.column) (m.after c) rest
    else .ok ⟨breaks, max deepest m.column, ⟨m, c :: rest⟩⟩

/-- The break before a line of a block text, with the empty lines between, as they read before the line. Where lines
are folded a break between two lines that start with no blank is folded; all lists have the last character first. -/
def joinLines (folded previousBlank nextBlank : Bool) (first : List Char) (more : List Char) : List Char :=
  if folded && first == ['\n'] && !previousBlank && !nextBlank then if more.isEmpty then [' '] else more
  else more ++ first

/-- The lines of a block text from a line on, with the characters read so far in reverse, the break that ended the
last line, and the empty lines after it. -/
def readLines (start : Mark) (folded : Bool) (indent : Nat) : Nat → List Char → List Char → Bool → EmptyLines →
    Except SyntaxError (List Char × List Char × EmptyLines)
  | 0, acc, first, _, empty => .ok (acc, first, empty)
  | fuel + 1, acc, first, previousBlank, empty =>
    let c := empty.cursor
    if c.mark.column ≠ indent || c.rest.isEmpty then .ok (acc, first, empty)
    else
      let nextBlank := c.peek?.any isBlank
      let (line, c) := c.span fun x => !isBreak x
      let acc := line.reverse ++ joinLines folded previousBlank nextBlank first empty.breaks ++ acc
      match readEmptyLines start (some indent) [] 0 c.next.mark c.next.rest with
      | .ok empty => readLines start folded indent fuel acc c.peek?.toList nextBlank empty
      | .error e => .error e

/-- What the line breaks at the end read as, the last one first. -/
def Chomping.tail (first more : List Char) : Chomping → List Char
  | strip => []
  | clip => first
  | keep => more ++ first

/-- The block text that starts here, with the cursor after it. What is around it is indented by `indent`
columns, or is the whole text. -/
def readBlock (folded : Bool) (indent : Option Nat) (c : Cursor) : Except SyntaxError (String × Cursor) :=
  match readBlockHead c.mark c.next with
  | .error e => .error e
  | .ok head =>
    let known := head.depth.map (indent.getD 0 + ·)
    match readEmptyLines c.mark known [] 0 head.cursor.mark head.cursor.rest with
    | .error e => .error e
    | .ok empty =>
      let least := max 1 (indent.elim 0 (· + 1))
      match readLines c.mark folded (known.getD (max least empty.deepest)) (c.rest.length + 1) [] [] false empty with
      | .error e => .error e
      | .ok (acc, first, empty) =>
        .ok (String.ofList (head.chomping.tail first empty.breaks ++ acc).reverse, empty.cursor)

end CriteriaStore.Yaml
