import CriteriaStore.OrderedMap
import CriteriaStore.Text.Utf8
import CriteriaStore.Yaml.Failure
import CriteriaStore.Yaml.Node.Building
import CriteriaStore.Yaml.Plain
/-!
# Settings of documents

The nodes of a document as settings. A tag asks for a kind of value, or names a set of one member around the value.
Aliases are followed a limited number of times, and collections are read to a limited depth.
-/

namespace CriteriaStore.Yaml

/-- The number of aliases that have been followed, and why reading ends. -/
abbrev Reading (α : Type) := StateT Nat (Except Failure) α

/-- The tag of a kind. -/
def Kind.tag : Kind → Tag
  | truth => Text.bytes "tag:yaml.org,2002:bool"
  | integer => Text.bytes "tag:yaml.org,2002:int"
  | float => Text.bytes "tag:yaml.org,2002:float"
  | null => Text.bytes "tag:yaml.org,2002:null"

/-- What a text says as a value of a kind. -/
def Kind.value? (s : String) : Kind → Option Setting
  | truth => (truth? s).map .bool
  | integer => integer? s
  | float => (float? s).map fun x => .number (.float x)
  | null => if isNull s then some .null else none

/-- Whether a tag starts with a mark of exclamation. -/
def isLocal (tag : Tag) : Bool := tag.head? == some 0x21

/-- The name of a tag that starts with a mark of exclamation. -/
def localName? (tag : Tag) : Option String :=
  match tag with
  | 0x21 :: b :: rest => Text.ofBytes? (b :: rest)
  | [0x21] => some "!"
  | _ => none

/-- The value of a scalar, or the kind that it fails to be. -/
def scalarValue (tag : Option Tag) (text : String) (isPlain : Bool) : Except Kind Setting :=
  match tag with
  | none => .ok (if isPlain then plain text else .string text)
  | some tag =>
    match [Kind.truth, .integer, .float, .null].find? fun k => k.tag = tag with
    | some kind =>
      match kind.value? text with
      | some v => .ok v
      | none => .error kind
    | none => .ok (if isPlain && isLocal tag then plain text else .string text)

/-- The value of a scalar at a place. -/
def readScalar (path : Path) (start : Mark) (tag : Option Tag) (text : String) (isPlain : Bool) :
    Except Failure Setting :=
  match scalarValue tag text isPlain with
  | .ok v => .ok v
  | .error kind => .error (.wrongKind path start text kind)

/-- A value in a set of one member when its tag has a name. -/
def named (tag : Option Tag) (v : Setting) : Setting :=
  match tag.bind localName? with
  | some name => .object [(name, v)]
  | none => v

namespace Document

/-- The failure of a document that breaks off. -/
def failure (d : Document) : Failure :=
  match d.interruption with
  | some why => .interrupted why
  | none => .furtherDocument

/-- The node that a node stands for. There may be a hundred aliases to follow for each node. -/
def resolve (d : Document) (path : Path) (n : Node) : Reading (Path × Node) := do
  match n with
  | .reference _ number =>
    let followed ← get
    set (followed + 1)
    if 100 * d.size < followed + 1 then throw .tooManyAliases
    return (.reference path, (OrderedMap.lookup number d.anchors).getD .missing)
  | n => return (path, n)

/-- The name that a node says: the text of a scalar, whatever its tag. -/
def readName (d : Document) (path : Path) (n : Node) : Reading String := do
  let (path, n) ← d.resolve path n
  match n with
  | .scalar _ _ text _ => return text
  | .items start _ _ => throw (.wrongType path start (.array []) .name)
  | .members start _ _ => throw (.wrongType path start (.object []) .name)
  | .reference .. | .missing => throw d.failure

/-- The path of the value of a member. -/
def valuePath (path : Path) : Node → Path
  | .scalar _ _ text _ => .member path text
  | _ => .unnamed path

/-- The value of a node, in which collections may be nested so deep. -/
def value (d : Document) (depth : Nat) (path : Path) (n : Node) : Reading Setting := do
  let (path, n) ← d.resolve path n
  match n, depth with
  | .scalar start tag text isPlain, _ =>
    match tag.bind localName? with
    | some name => return .object [(name, ← readScalar path start none text isPlain)]
    | none => readScalar path start tag text isPlain
  | .items start _ _, 0 | .members start _ _, 0 => throw (.tooDeep start)
  | .items _ tag items, depth + 1 =>
    let values ← items.zipIdx.mapM fun (n, i) => d.value depth (.item path i) n
    return named tag (.array values)
  | .members _ tag members, depth + 1 =>
    let values ← members.mapM fun (k, v) => do
      let name ← d.readName path k
      return (name, ← d.value depth (valuePath path k) v)
    return named tag (.object (values.foldl (fun ms (name, v) => OrderedMap.put name v ms) []))
  | .reference .., _ | .missing, _ => throw d.failure

/-- The members of the outermost node, whatever its tag. A text that says nothing has none. -/
def rootMembers (d : Document) : Except Failure (List (String × Setting)) :=
  match d.root with
  | none => .ok []
  | some (.scalar start tag text isPlain) =>
    if isPlain && text.isEmpty then .ok []
    else
      match readScalar .root start tag text isPlain with
      | .ok v => .error (.wrongType .root start v .members)
      | .error e => .error e
  | some (.items start _ _) => .error (.wrongType .root start (.array []) .members)
  | some (.members start _ members) =>
    match (d.value 128 .root (.members start none members)).run' 0 with
    | .ok (.object members) => .ok members
    | .ok v => .error (.wrongType .root start v .members)
    | .error e => .error e
  | some (.reference ..) | some .missing => .error d.failure

/-- The settings that the text of a document says. Nothing may come after the document. -/
def settings (d : Document) : Except Failure (List (String × Setting)) :=
  match d.rootMembers with
  | .error e => .error e
  | .ok members =>
    match d.interruption with
    | some why => .error (.interrupted why)
    | none => if d.isFollowed then .error .furtherDocument else .ok members

end Document

end CriteriaStore.Yaml
