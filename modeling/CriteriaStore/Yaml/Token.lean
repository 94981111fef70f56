import CriteriaStore.Yaml.Mark
/-!
# Tokens

The pieces of a text. The starts and ends of block collections are tokens as well, although only the indentation
shows them.
-/

namespace CriteriaStore.Yaml

/-- A tag is bytes, since its percent escapes may say any. -/
abbrev Tag := List UInt8

/-- What a token says. -/
inductive Lexeme where
  | version (major minor : Nat)
  | tagHandle (handle : String) (meaning : Tag)
  | documentStart
  | documentEnd
  | textEnd
  | blockList
  | blockMembers
  | blockEnd
  | flowList
  | flowListEnd
  | flowMembers
  | flowMembersEnd
  | item
  | comma
  | key
  | value
  | anchor (name : String)
  | reference (name : String)
  | tag (handle : String) (name : Tag)
  /-- A text; only a plain one is more than itself. -/
  | scalar (text : String) (plain : Bool)
  deriving Repr, DecidableEq

/-- A token and the place where it starts. -/
structure Token where
  lexeme : Lexeme
  start : Mark
  deriving Repr

end CriteriaStore.Yaml
