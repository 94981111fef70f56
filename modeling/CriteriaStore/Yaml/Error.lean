import CriteriaStore.Yaml.Mark
/-!
# Texts that break the rules

Why a text says nothing: what is wrong, where, and what was being read when it was met.
-/

namespace CriteriaStore.Yaml

/-- What is wrong. -/
inductive Problem where
  | forbiddenCharacter (offset : Nat)
  | unknownStart
  | missingColon
  | misplacedItem
  | misplacedKey
  | misplacedValue
  | unknownDirective
  | missingDirectiveName
  | oddDirectiveName
  | missingVersion
  | missingPoint
  | longVersion
  | missingSpace
  | missingSpaceOrBreak
  | missingLineEnd
  | missingName
  | missingExclamation
  | missingClosingAngle
  | missingTagName
  | missingOctet
  | badLeadingOctet
  | badTrailingOctet
  | zeroIndent
  | tabInIndent
  | tabBeforeIndent
  | documentMark
  | endOfText
  | unknownEscape
  | missingHexDigit
  | badCodePoint
  | gluedColon
  | duplicateVersion
  | foreignVersion
  | duplicateHandle
  | unknownHandle
  | missingDocumentStart
  | missingContent
  | missingItem
  | missingKey
  | unclosedList
  | unclosedMembers
  deriving Repr, DecidableEq

/-- The wording of a problem. -/
def Problem.message : Problem → String
  | forbiddenCharacter _ => "control characters are not allowed"
  | unknownStart => "found character that cannot start any token"
  | missingColon => "could not find expected ':'"
  | misplacedItem => "block sequence entries are not allowed in this context"
  | misplacedKey => "mapping keys are not allowed in this context"
  | misplacedValue => "mapping values are not allowed in this context"
  | unknownDirective => "found unknown directive name"
  | missingDirectiveName => "could not find expected directive name"
  | oddDirectiveName => "found unexpected non-alphabetical character"
  | missingVersion => "did not find expected version number"
  | missingPoint => "did not find expected digit or '.' character"
  | longVersion => "found extremely long version number"
  | missingSpace => "did not find expected whitespace"
  | missingSpaceOrBreak => "did not find expected whitespace or line break"
  | missingLineEnd => "did not find expected comment or line break"
  | missingName => "did not find expected alphabetic or numeric character"
  | missingExclamation => "did not find expected '!'"
  | missingClosingAngle => "did not find the expected '>'"
  | missingTagName => "did not find expected tag URI"
  | missingOctet => "did not find URI escaped octet"
  | badLeadingOctet => "found an incorrect leading UTF-8 octet"
  | badTrailingOctet => "found an incorrect trailing UTF-8 octet"
  | zeroIndent => "found an indentation indicator equal to 0"
  | tabInIndent => "found a tab character where an indentation space is expected"
  | tabBeforeIndent => "found a tab character that violates indentation"
  | documentMark => "found unexpected document indicator"
  | endOfText => "found unexpected end of stream"
  | unknownEscape => "found unknown escape character"
  | missingHexDigit => "did not find expected hexdecimal number"
  | badCodePoint => "found invalid Unicode character escape code"
  | gluedColon => "found unexpected ':'"
  | duplicateVersion => "found duplicate %YAML directive"
  | foreignVersion => "found incompatible YAML document"
  | duplicateHandle => "found duplicate %TAG directive"
  | unknownHandle => "found undefined tag handle"
  | missingDocumentStart => "did not find expected <document start>"
  | missingContent => "did not find expected node content"
  | missingItem => "did not find expected '-' indicator"
  | missingKey => "did not find expected key"
  | unclosedList => "did not find expected ',' or ']'"
  | unclosedMembers => "did not find expected ',' or '\x7d'"

/-- What was being read. -/
inductive Activity where
  | nextToken
  | simpleKey
  | directive
  | versionDirective
  | tagDirective
  /-- The start of the handle of a tag directive. -/
  | tagDirectiveHandle
  /-- The end of the handle of a tag directive. -/
  | tagDirectiveHandleEnd
  /-- The tag that a tag directive stands for. -/
  | tagDirectiveTag
  | anchor
  | reference
  | tag
  /-- The name in a tag. -/
  | tagName
  | blockText
  | quotedText
  /-- An escape in a quoted text. -/
  | escape
  | plainText
  | node
  | blockNode
  | flowNode
  | blockList
  | blockMembers
  | flowList
  | flowMembers
  deriving Repr, DecidableEq

/-- The wording of an activity. -/
def Activity.message : Activity → String
  | nextToken => "while scanning for the next token"
  | simpleKey => "while scanning a simple key"
  | directive => "while scanning a directive"
  | versionDirective => "while scanning a %YAML directive"
  | tagDirective => "while scanning a %TAG directive"
  | tagDirectiveHandle => "while scanning a tag directive"
  | tagDirectiveHandleEnd => "while parsing a tag directive"
  | tagDirectiveTag => "while parsing a %TAG directive"
  | anchor => "while scanning an anchor"
  | reference => "while scanning an alias"
  | tag => "while scanning a tag"
  | tagName => "while parsing a tag"
  | blockText => "while scanning a block scalar"
  | quotedText => "while scanning a quoted scalar"
  | escape => "while parsing a quoted scalar"
  | plainText => "while scanning a plain scalar"
  | node => "while parsing a node"
  | blockNode => "while parsing a block node"
  | flowNode => "while parsing a flow node"
  | blockList => "while parsing a block collection"
  | blockMembers => "while parsing a block mapping"
  | flowList => "while parsing a flow sequence"
  | flowMembers => "while parsing a flow mapping"

/-- What was being read, and where it started. -/
structure Context where
  activity : Activity
  start : Mark
  deriving Repr

/-- A problem, its place, and what was being read. -/
structure SyntaxError where
  problem : Problem
  place : Mark
  context : Option Context := none
  deriving Repr

namespace SyntaxError

/-- Where the problem is. A forbidden character is placed by the bytes before it. -/
def placeRemark (e : SyntaxError) : String :=
  match e.problem with
  | .forbiddenCharacter offset => if offset = 0 then "" else " at position " ++ toString offset
  | _ => e.place.remark

/-- What was being read. Its start is named when it is another place than that of the problem. -/
def contextRemark (e : SyntaxError) : String :=
  match e.context with
  | none => ""
  | some c => ", " ++ c.activity.message ++ (if c.start.sameAs e.place then "" else c.start.remark)

/-- The wording of the error. -/
def message (e : SyntaxError) : String := e.problem.message ++ e.placeRemark ++ e.contextRemark

end SyntaxError

/-- A problem that is met in the course of something. -/
def Activity.fails {α : Type} (activity : Activity) (start : Mark) (problem : Problem) (place : Mark) :
    Except SyntaxError α :=
  .error { problem, place, context := some ⟨activity, start⟩ }

end CriteriaStore.Yaml
