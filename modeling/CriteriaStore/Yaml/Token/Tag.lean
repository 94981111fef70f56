import CriteriaStore.Text.Escape
import CriteriaStore.Yaml.Error
import CriteriaStore.Yaml.Token
/-!
# Tags, directives and names

Tags are written with a handle and a name, or in full between angles; a directive before the document says what a
handle stands for. Names of tags may hold percent escapes, which say the bytes of UTF-8 characters.
-/

namespace CriteriaStore.Yaml

/-- What names of tags consist of. In full tags and in directives the marks of lists belong to it as well. -/
def isTagChar (full : Bool) (c : Char) : Bool :=
  isNameChar c || c == ';' || c == '/' || c == '?' || c == ':' || c == '@' || c == '&' || c == '=' || c == '+'
    || c == '$' || c == '.' || c == '%' || c == '!' || c == '~' || c == '*' || c == '\'' || c == '(' || c == ')'
    || (full && (c == ',' || c == '[' || c == ']'))

/-- How many bytes a character has by its first byte. -/
def octetCount? (octet : Nat) : Option Nat :=
  if octet < 0x80 then some 1
  else if octet / 0x20 = 6 then some 2
  else if octet / 0x10 = 14 then some 3
  else if octet / 0x08 = 30 then some 4
  else none

/-- The byte that a percent escape says. -/
def readOctet? : List Char → Option Nat
  | '%' :: cs => (Text.readHex? 2 0 cs).map Prod.fst
  | _ => none

/-- The name of a tag from here on, with the bytes read so far in reverse; `due` bytes of an escaped character are
still to come. So many characters to come have been read already. -/
def readTagNameFrom (full : Bool) (activity : Activity) (start : Mark) (known due : Nat) (acc : List UInt8) (m : Mark) :
    List Char → Except SyntaxError (Tag × Cursor)
  | [] => if due ≠ 0 then activity.fails start .missingOctet m else .ok (acc.reverse, ⟨m, []⟩)
  | x :: rest =>
    if known ≠ 0 then readTagNameFrom full activity start (known - 1) due acc (m.after x) rest
    else if x == '%' || due ≠ 0 then
      match readOctet? (x :: rest) with
      | none => activity.fails start .missingOctet m
      | some octet =>
        let go (due : Nat) :=
          readTagNameFrom full activity start 2 due (UInt8.ofNat octet :: acc) (m.after x) rest
        match due, octetCount? octet with
        | k + 1, _ => if octet / 0x40 = 2 then go k else activity.fails start .badTrailingOctet m
        | 0, some n => go (n - 1)
        | 0, none => activity.fails start .badLeadingOctet m
    else if isTagChar full x then
      readTagNameFrom full activity start 0 0 (UInt8.ofNat x.toNat :: acc) (m.after x) rest
    else .ok (acc.reverse, ⟨m, x :: rest⟩)

/-- The name of a tag, of which `before` has been read already. It must not be empty, unless a mark of exclamation
stands before it; an escaped byte of zero ends it. -/
def readTagName (full : Bool) (activity : Activity) (start : Mark) (before : Option (List Char)) (c : Cursor) :
    Except SyntaxError (Tag × Cursor) :=
  let acc := ((before.getD []).map fun x => UInt8.ofNat x.toNat).reverse
  match readTagNameFrom full activity start 0 0 acc c.mark c.rest with
  | .ok (name, rest) =>
    if before.isNone && name.isEmpty then activity.fails start .missingTagName rest.mark
    else .ok (name.takeWhile (· ≠ 0), rest)
  | .error e => .error e

/-- The handle of a tag: a mark of exclamation with a name, and a second mark if it stands here. -/
def readHandle (activity : Activity) (start : Mark) (c : Cursor) :
    Except SyntaxError (List Char × Bool × Cursor) :=
  if !c.startsWith '!' then activity.fails start .missingExclamation c.mark
  else
    let (name, c) := c.next.span isNameChar
    if c.startsWith '!' then .ok (name, true, c.next) else .ok (name, false, c)

/-- A handle as a text. -/
def handleText (name : List Char) (closed : Bool) : String :=
  String.ofList ('!' :: name ++ if closed then ['!'] else [])

/-- The handle and the name of the tag that starts here. Without a handle the tag is complete. -/
def readTagParts (c : Cursor) : Except SyntaxError (String × Tag × Cursor) :=
  let start := c.mark
  if c.rest.tail.head? == some '<' then
    match readTagName true .tagName start none (c.skip 2) with
    | .error e => .error e
    | .ok (name, c) =>
      if c.startsWith '>' then .ok ("", name, c.next) else Activity.tag.fails start .missingClosingAngle c.mark
  else
    match readHandle .tag start c with
    | .error e => .error e
    | .ok (name, true, c) =>
      match readTagName false .tagName start none c with
      | .ok (rest, c) => .ok (handleText name true, rest, c)
      | .error e => .error e
    | .ok (name, false, c) =>
      match readTagName false .tagName start (some name) c with
      | .ok ([], c) => .ok ("", [0x21], c)
      | .ok (rest, c) => .ok ("!", rest, c)
      | .error e => .error e

/-- The tag that starts here. A blank, a break or the end follows it, or a comma in a flow collection. -/
def readTag (inFlow : Bool) (c : Cursor) : Except SyntaxError (Lexeme × Cursor) :=
  match readTagParts c with
  | .error e => .error e
  | .ok (handle, name, rest) =>
    if endsWord rest.rest || (inFlow && rest.startsWith ',') then .ok (.tag handle name, rest)
    else Activity.tag.fails c.mark .missingSpaceOrBreak rest.mark

/-- The name after the mark of an anchor or an alias. -/
def readName (activity : Activity) (c : Cursor) : Except SyntaxError (String × Cursor) :=
  let (name, rest) := c.next.span isNameChar
  let ends := endsWord rest.rest || rest.peek?.any fun x =>
    x == '?' || x == ':' || x == ',' || x == ']' || x == '\x7d' || x == '%' || x == '@' || x.toNat == 0x60
  if name.isEmpty || !ends then activity.fails c.mark .missingName rest.mark
  else .ok (String.ofList name, rest)

/-- A number of a version. -/
def readVersionNumber (start : Mark) (c : Cursor) : Except SyntaxError (Nat × Cursor) :=
  let (digits, rest) := c.span Char.isDigit
  if 9 < digits.length then Activity.versionDirective.fails start .longVersion (c.skip 9).mark
  else if digits.isEmpty then Activity.versionDirective.fails start .missingVersion rest.mark
  else .ok (digits.foldl (fun n d => 10 * n + (d.toNat - 48)) 0, rest)

/-- The version that a directive asks for. -/
def readVersion (start : Mark) (c : Cursor) : Except SyntaxError (Lexeme × Cursor) :=
  match readVersionNumber start (c.skipWhile isBlank) with
  | .error e => .error e
  | .ok (major, c) =>
    if !c.startsWith '.' then Activity.versionDirective.fails start .missingPoint c.mark
    else
      match readVersionNumber start c.next with
      | .ok (minor, c) => .ok (.version major minor, c)
      | .error e => .error e

/-- The handle that a directive declares, and what it stands for. -/
def readTagDirective (start : Mark) (c : Cursor) : Except SyntaxError (Lexeme × Cursor) :=
  match readHandle .tagDirectiveHandle start (c.skipWhile isBlank) with
  | .error e => .error e
  | .ok (name, closed, c) =>
    if !closed && !name.isEmpty then Activity.tagDirectiveHandleEnd.fails start .missingExclamation c.mark
    else if !c.peek?.any isBlank then Activity.tagDirective.fails start .missingSpace c.mark
    else
      match readTagName true .tagDirectiveTag start none (c.skipWhile isBlank) with
      | .error e => .error e
      | .ok (meaning, c) =>
        if endsWord c.rest then .ok (.tagHandle (handleText name closed) meaning, c)
        else Activity.tagDirective.fails start .missingSpaceOrBreak c.mark

/-- The directive that starts here, with its line. -/
def readDirective (c : Cursor) : Except SyntaxError (Lexeme × Cursor) :=
  let start := c.mark
  let (name, c) := c.next.span isNameChar
  let read : Except SyntaxError (Lexeme × Cursor) :=
    if name.isEmpty then Activity.directive.fails start .missingDirectiveName c.mark
    else if !endsWord c.rest then Activity.directive.fails start .oddDirectiveName c.mark
    else if name == "YAML".toList then readVersion start c
    else if name == "TAG".toList then readTagDirective start c
    else Activity.directive.fails start .unknownDirective c.mark
  match read with
  | .error e => .error e
  | .ok (lexeme, c) =>
    match c.endLine? with
    | some c => .ok (lexeme, c)
    | none => Activity.directive.fails start .missingLineEnd c.skipComment.mark

end CriteriaStore.Yaml
