import CriteriaStore.Yaml.Error
import CriteriaStore.Yaml.Token.Folding
/-!
# Plain texts

Texts without quotes. A plain text ends at a comment, at a colon before a blank, at a mark of a flow collection when
it stands in one, and before a line that is not indented enough. Blanks and line breaks after it are read with it.
-/

namespace CriteriaStore.Yaml

/-- A plain text that has been read. -/
structure PlainText where
  text : String
  cursor : Cursor
  /-- Whether a line ends after it. -/
  broken : Bool

/-- Whether a plain text may start with these characters. Inside flow collections a question mark or a colon never
starts one. -/
def startsPlain (inFlow : Bool) (cs : List Char) : Bool :=
  match cs with
  | [] => false
  | c :: rest =>
    if isBlank c || isBreak c then false
    else if c == '-' then !(rest.head?.any isBlank)
    else if c == '?' || c == ':' then !inFlow && !endsWord rest
    else !(isFlowMark c || c == '#' || c == '&' || c == '*' || c == '!' || c == '|' || c == '>' || c == '\''
      || c == '"' || c == '%' || c == '@' || c.toNat == 0x60)

/-- Whether a plain text cannot go on in a flow collection after a colon. -/
def isGlued (cs : List Char) : Bool := cs.head?.any fun c => isFlowMark c || c == '?'

/-- The rest of a plain text that starts at `start`, with the characters read so far in reverse and what has been
read since the last word. Lines that go on with it have at least `indent` columns before them. -/
def readPlainFrom (inFlow : Bool) (indent : Nat) (start m : Mark) (acc : List Char) (gap : Gap) :
    List Char → Except SyntaxError PlainText
  | [] => .ok ⟨String.ofList acc.reverse, ⟨m, []⟩, gap.broken⟩
  | c :: rest =>
    let done := Except.ok ⟨String.ofList acc.reverse, ⟨m, c :: rest⟩, gap.broken⟩
    if isBlank c || isBreak c then
      if c == '\t' && gap.broken && decide (m.column < indent) then
        Activity.plainText.fails start .tabBeforeIndent m
      else readPlainFrom inFlow indent start (m.after c) acc (gap.add c) rest
    else if !gap.isEmpty && ((!inFlow && decide (m.column < indent)) || (Cursor.mk m (c :: rest)).isDocumentMark
        || c == '#') then done
    else if inFlow && c == ':' && isGlued rest then Activity.plainText.fails start .gluedColon m
    else if (c == ':' && endsWord rest) || (inFlow && isFlowMark c) then done
    else readPlainFrom inFlow indent start (m.after c) (c :: (gap.text ++ acc)) {} rest

/-- The plain text that starts here. -/
def readPlain (inFlow : Bool) (indent : Nat) (c : Cursor) : Except SyntaxError PlainText :=
  readPlainFrom inFlow indent c.mark c.mark [] {} c.rest

end CriteriaStore.Yaml
