/-!
# Patterns

Patterns in which a percent sign stands for any text and an underscore for any character, unless a backslash
stands before it. Letters of ASCII match in either case, and the two code points that are no characters match like
the replacement character. Pattern and text end at a zero character.
-/

namespace CriteriaStore.Storage

/-- One element of a pattern. -/
inductive PatternItem where
  | anyText
  | anyChar
  | char (c : Char)
  /-- An escape with nothing after it, which matches nothing. -/
  | never
  deriving Repr, DecidableEq

/-- The elements of a written pattern. -/
def PatternItem.ofChars : List Char → List PatternItem
  | [] => []
  | ['\\'] => [never]
  | '\\' :: c :: rest => char c :: ofChars rest
  | '%' :: rest => anyText :: ofChars rest
  | '_' :: rest => anyChar :: ofChars rest
  | c :: rest => char c :: ofChars rest

/-- Whether some end of a text, the whole text included, passes a test. -/
def anySuffix (test : List Char → Bool) : List Char → Bool
  | [] => test []
  | c :: rest => test (c :: rest) || anySuffix test rest

/-- What a character matches as. -/
def folded (c : Char) : Char := if c = '\uFFFE' ∨ c = '\uFFFF' then '\uFFFD' else c.toLower

/-- Whether a text matches a pattern. -/
def matchesItems : List PatternItem → List Char → Bool
  | [], cs => cs.isEmpty
  | .anyText :: rest, cs => anySuffix (matchesItems rest) cs
  | .anyChar :: rest, _ :: cs => matchesItems rest cs
  | .char p :: rest, c :: cs => folded p == folded c && matchesItems rest cs
  | _ :: _, _ => false

/-- A text up to its first zero character. -/
def untilZero (s : String) : List Char := s.toList.takeWhile fun c => c ≠ '\x00'

/-- Whether a text matches a written pattern. -/
def likeText (pattern text : String) : Bool :=
  matchesItems (PatternItem.ofChars (untilZero pattern)) (untilZero text)

end CriteriaStore.Storage
