import CriteriaStore.Yaml.Mark
/-!
# Folded lines

What stands between two words of a text of several lines: blanks that count when no line ends there, or line breaks.
A single line feed reads as a space (`Gap.foldBreaks`), and of several the first one is dropped.
-/

namespace CriteriaStore.Yaml

/-- What has been read since the last word. -/
structure Gap where
  /-- The blanks, the last one first; they are dropped when the line ends. -/
  blanks : List Char := []
  /-- Whether the line has ended. -/
  broken : Bool := false
  /-- The first line break, unless it was escaped. -/
  first : Option Char := none
  /-- The line breaks after it, the last one first. -/
  more : List Char := []
  deriving Repr, DecidableEq

namespace Gap

/-- Nothing at all. -/
def isEmpty (g : Gap) : Bool := !g.broken && g.blanks.isEmpty

/-- The gap after one more blank or line break. -/
def add (g : Gap) (c : Char) : Gap :=
  if isBreak c then
    if g.broken then { g with more := c :: g.more } else { blanks := [], broken := true, first := some c }
  else if g.broken then g
  else { g with blanks := c :: g.blanks }

/-- The gap after a line break that is escaped. -/
def escaped : Gap := { broken := true }

/-- What line breaks read as, the last character first. -/
def foldBreaks (first : Option Char) (more : List Char) : List Char :=
  match first, more with
  | some '\n', [] => [' ']
  | some '\n', more => more
  | some c, more => more ++ [c]
  | none, more => more

/-- What the gap reads as, the last character first. -/
def text (g : Gap) : List Char := if g.broken then foldBreaks g.first g.more else g.blanks

end Gap

end CriteriaStore.Yaml
