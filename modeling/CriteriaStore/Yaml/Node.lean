import CriteriaStore.Yaml.Error
import CriteriaStore.Yaml.Token
/-!
# Documents

The nodes of a document, as the tokens show them. A text that breaks the rules has a document as well, with
`Node.missing` where it breaks off, so that whoever reads the nodes in order meets first what comes first.
-/

namespace CriteriaStore.Yaml

/-- A node of a document, with the place where it starts and its tag. -/
inductive Node where
  | scalar (start : Mark) (tag : Option Tag) (text : String) (plain : Bool)
  | items (start : Mark) (tag : Option Tag) (items : List Node)
  | members (start : Mark) (tag : Option Tag) (members : List (Node × Node))
  /-- The node of an anchor, by its number. -/
  | reference (start : Mark) (anchor : Nat)
  /-- Where the text breaks off. -/
  | missing
  deriving Repr, Inhabited

/-- Why a document breaks off. -/
inductive Interruption where
  | rule (e : SyntaxError)
  | unknownAnchor (place : Mark)
  deriving Repr

/-- The first document of a text. -/
structure Document where
  /-- The outermost node; a text that says nothing has none. -/
  root : Option Node
  /-- The nodes of the anchors, by number. -/
  anchors : List (Nat × Node)
  /-- How many nodes and ends of collections it has. -/
  size : Nat
  /-- Why it breaks off, if it does. -/
  interruption : Option Interruption
  /-- Whether the text goes on after it. -/
  isFollowed : Bool

end CriteriaStore.Yaml
