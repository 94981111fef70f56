import CriteriaStore.Config.Setting
import CriteriaStore.Scalar
import CriteriaStore.Text.Quoted
import CriteriaStore.Yaml.Node
/-!
# Texts without settings

Why a text says no settings: it breaks the rules, or its first document is not what settings are. The path of a value
that cannot be read is part of the message.
-/

namespace CriteriaStore.Yaml

/-- What leads to a node. -/
inductive Path where
  | root
  | item (parent : Path) (index : Nat)
  | member (parent : Path) (name : String)
  /-- The value of a member whose name is not written in its place. -/
  | unnamed (parent : Path)
  /-- The node of an alias. -/
  | reference (parent : Path)
  deriving Repr

namespace Path

mutual

/-- The path as messages show it. -/
def text : Path → String
  | root => "."
  | item parent index => parent.text ++ "[" ++ toString index ++ "]"
  | member parent name => parent.start ++ name
  | unnamed parent => parent.start ++ "?"
  | reference parent => parent.text

/-- What stands before the name of a member. -/
def start : Path → String
  | root => ""
  | item parent index => parent.text ++ "[" ++ toString index ++ "]."
  | member parent name => parent.start ++ name ++ "."
  | unnamed parent => parent.start ++ "?."
  | reference parent => parent.text ++ "."

end

/-- What stands before a message about a node. -/
def remark (p : Path) : String := if p.text == "." then "" else p.text ++ ": "

end Path

/-- What settings are made of. -/
inductive Expected where
  | members
  | name
  deriving Repr, DecidableEq

/-- The wording of an expectation. -/
def Expected.message : Expected → String
  | members => "a map"
  | name => "a string"

/-- The kinds that a tag may ask for. -/
inductive Kind where
  | truth
  | integer
  | float
  | null
  deriving Repr, DecidableEq

/-- The wording of a kind. -/
def Kind.message : Kind → String
  | truth => "a boolean"
  | integer => "an integer"
  | float => "a float"
  | null => "null"

/-- Why a text says no settings. -/
inductive Failure where
  | interrupted (why : Interruption)
  | tooManyAliases
  | tooDeep (place : Mark)
  | wrongType (path : Path) (place : Mark) (found : Setting) (expected : Expected)
  /-- A text that is not of the kind its tag asks for. -/
  | wrongKind (path : Path) (place : Mark) (text : String) (expected : Kind)
  | furtherDocument
  deriving Repr

/-- A float as messages about documents show it, with a point if it is finite. -/
def floatText (x : Float) : String :=
  let text := Scalar.floatText x
  if x.isFinite && !text.contains '.' then text ++ ".0" else text

/-- A value as messages about documents show it. -/
def describe : Setting → String
  | .null => "unit value"
  | .bool b => "boolean `" ++ (if b then "true" else "false") ++ "`"
  | .number (.unsigned n) => "integer `" ++ toString n.toNat ++ "`"
  | .number (.negative n) => "integer `" ++ toString n.toInt ++ "`"
  | .number (.float x) => "floating point `" ++ floatText x ++ "`"
  | .wide n => "integer `" ++ toString n ++ "` as " ++ (if n < 0 then "i128" else "u128")
  | .string s => "string " ++ Text.quoted s
  | .array _ => "sequence"
  | .object _ => "map"

/-- The wording of an interruption. -/
def Interruption.message : Interruption → String
  | rule e => e.message
  | unknownAnchor place => "unknown anchor" ++ place.remark

/-- The wording of a failure. -/
def Failure.message : Failure → String
  | interrupted why => why.message
  | tooManyAliases => "repetition limit exceeded"
  | tooDeep place => "recursion limit exceeded" ++ place.remark
  | wrongType path place found expected =>
    path.remark ++ "invalid type: " ++ describe found ++ ", expected " ++ expected.message ++ place.remark
  | wrongKind path place text expected =>
    path.remark ++ "invalid value: string " ++ Text.quoted text ++ ", expected " ++ expected.message ++ place.remark
  | furtherDocument => "deserializing from YAML containing more than one document is not supported"

end CriteriaStore.Yaml
