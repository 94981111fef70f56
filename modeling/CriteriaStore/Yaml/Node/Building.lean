import CriteriaStore.OrderedMap
import CriteriaStore.Yaml.Node
import CriteriaStore.Yaml.Token.Scan
/-!
# Documents from tokens

The grammar of documents. Each function reads the tokens of one kind of node; when the tokens end early or break the
grammar, no tokens are left and whatever is open is closed with `Node.missing`.
-/

namespace CriteriaStore.Yaml

/-- The tokens that are left, and what is known of the document. -/
structure Building where
  tokens : List Token
  interruption : Option Interruption
  /-- What the handles of tags stand for. -/
  handles : List (String × Tag) := []
  /-- The number of each anchor by its name. -/
  names : List (String × Nat) := []
  /-- The places of the numbered nodes in the order of nodes, the last one first. -/
  places : List (Nat × Nat) := []
  /-- The nodes with an anchor by their places. -/
  nodes : List (Nat × Node) := []
  /-- How many nodes and ends of collections have been met. -/
  size : Nat := 0

namespace Building

/-- A step of building. -/
abbrev Step (α : Type) := StateM Building α

/-- The next token. -/
def peek? : Step (Option Token) := return (← get).tokens.head?

/-- Pass the next token. -/
def advance : Step Unit := modify fun b => { b with tokens := b.tokens.tail }

/-- Break off. -/
def interrupt (reason : Interruption) : Step Node := do
  modify fun b => { b with tokens := [], interruption := some reason }
  return .missing

/-- Break off because of a problem, met in the course of something. -/
def fails (problem : Problem) (place : Mark) (context : Option Context) : Step Node :=
  interrupt (.rule { problem, place, context })

/-- One more node or end. -/
def count : Step Unit := modify fun b => { b with size := b.size + 1 }

/-- The node of an alias. -/
def reference (start : Mark) (name : String) : Step Node := do
  match OrderedMap.lookup name (← get).names with
  | some number =>
    count
    return .reference start number
  | none => interrupt (.unknownAnchor start)

/-- A node that perhaps has an anchor. The number of an anchor is that of the names known before it. -/
def anchored (name : Option String) (node : Step Node) : Step Node := do
  match name with
  | none =>
    count
    node
  | some name =>
    let place := (← get).size
    modify fun b => { b with
      names := OrderedMap.put name b.names.length b.names
      places := (b.names.length, place) :: b.places }
    count
    let n ← node
    modify fun b => { b with nodes := (place, n) :: b.nodes }
    return n

/-- A scalar that is not written. -/
def empty : Step Node := do
  count
  return .scalar {} none "" true

/-- What stands before a node: its anchor, and the handle, the name and the place of its tag. -/
structure Properties where
  anchor : Option String := none
  tag : Option (String × Tag × Mark) := none

/-- The anchor that comes next, if one does. -/
def anchor (p : Properties) : Step Properties := do
  match ← peek? with
  | some ⟨.anchor name, _⟩ =>
    advance
    return { p with anchor := some name }
  | _ => return p

/-- The tag that comes next, if one does. -/
def tag (p : Properties) : Step Properties := do
  match ← peek? with
  | some ⟨.tag handle name, place⟩ =>
    advance
    return { p with tag := some (handle, name, place) }
  | _ => return p

/-- An anchor and a tag in either order. -/
def properties : Step Properties := do
  let p ← anchor {}
  let p ← tag p
  if p.anchor.isNone then anchor p else return p

/-- The whole tag of a handle and a name, if the handle is known. -/
def wholeTag? (handles : List (String × Tag)) (handle : String) (name : Tag) : Option Tag :=
  if handle.isEmpty then some name else (OrderedMap.lookup handle handles).map (· ++ name)

mutual

/-- The node that comes next. Inside flow collections it is no block collection; where `indentless` it may be a list
of items at the column of what is around it. -/
def node : Nat → Bool → Bool → Step Node
  | 0, _, _ => return .missing
  | fuel + 1, block, indentless => do
    match ← peek? with
    | none => return .missing
    | some ⟨.reference name, start⟩ =>
      advance
      reference start name
    | some ⟨_, start⟩ =>
      let p ← properties
      match ← peek? with
      | none => return .missing
      | some t =>
        match p.tag with
        | none => content fuel block indentless start p.anchor none t
        | some (handle, name, place) =>
          match wholeTag? (← get).handles handle name with
          | some tag => content fuel block indentless start p.anchor (some tag) t
          | none => fails .unknownHandle place (some ⟨.node, start⟩)

/-- The node with an anchor and a tag whose content comes next. -/
def content : Nat → Bool → Bool → Mark → Option String → Option Tag → Token → Step Node
  | 0, _, _, _, _, _, _ => return .missing
  | fuel + 1, block, indentless, start, name, tag, t => do
    match block, indentless, t.lexeme with
    | _, true, .item => anchored name do return .items start tag (← looseItems fuel)
    | _, _, .scalar text plain =>
      advance
      anchored name do return .scalar start tag text plain
    | _, _, .flowList =>
      advance
      anchored name do return .items start tag (← flowItems fuel t.start true)
    | _, _, .flowMembers =>
      advance
      anchored name do return .members start tag (← flowMembers fuel t.start true)
    | true, _, .blockList =>
      advance
      anchored name do return .items start tag (← blockItems fuel t.start)
    | true, _, .blockMembers =>
      advance
      anchored name do return .members start tag (← blockMembers fuel t.start)
    | _, _, _ =>
      if name.isSome || tag.isSome then anchored name do return .scalar start tag "" true
      else fails .missingContent t.start (some ⟨if block then .blockNode else .flowNode, start⟩)

/-- The items of a list that has a column of its own. -/
def blockItems : Nat → Mark → Step (List Node)
  | 0, _ => return [.missing]
  | fuel + 1, start => do
    match ← peek? with
    | none => return [.missing]
    | some ⟨.item, _⟩ =>
      advance
      let n ← match (← peek?).map Token.lexeme with
        | some .item | some .blockEnd => empty
        | _ => node fuel true false
      return n :: (← blockItems fuel start)
    | some ⟨.blockEnd, _⟩ =>
      advance
      count
      return []
    | some t => return [← fails .missingItem t.start (some ⟨.blockList, start⟩)]

/-- The items of a list at the column of the members around it. -/
def looseItems : Nat → Step (List Node)
  | 0 => return [.missing]
  | fuel + 1 => do
    match ← peek? with
    | none => return [.missing]
    | some ⟨.item, _⟩ =>
      advance
      let n ← match (← peek?).map Token.lexeme with
        | some .item | some .key | some .value | some .blockEnd => empty
        | _ => node fuel true false
      return n :: (← looseItems fuel)
    | some _ =>
      count
      return []

/-- The key or the value of a member in a block, after its mark. -/
def blockPart : Nat → Step Node
  | 0 => return .missing
  | fuel + 1 => do
    match (← peek?).map Token.lexeme with
    | some .key | some .value | some .blockEnd => empty
    | _ => node fuel true true

/-- The members in a block. -/
def blockMembers : Nat → Mark → Step (List (Node × Node))
  | 0, _ => return [(.missing, .missing)]
  | fuel + 1, start => do
    match ← peek? with
    | none => return [(.missing, .missing)]
    | some ⟨.key, _⟩ =>
      advance
      let k ← blockPart fuel
      let v ← match (← peek?).map Token.lexeme with
        | none => pure .missing
        | some .value =>
          advance
          blockPart fuel
        | some _ => empty
      return (k, v) :: (← blockMembers fuel start)
    | some ⟨.blockEnd, _⟩ =>
      advance
      count
      return []
    | some t => return [(← fails .missingKey t.start (some ⟨.blockMembers, start⟩), .missing)]

/-- The items between brackets, of which perhaps none has been read. -/
def flowItems : Nat → Mark → Bool → Step (List Node)
  | 0, _, _ => return [.missing]
  | fuel + 1, start, isFirst => do
    match ← peek? with
    | none => return [.missing]
    | some ⟨.flowListEnd, _⟩ =>
      advance
      count
      return []
    | some t =>
      if isFirst then flowItem fuel start
      else if t.lexeme = .comma then
        advance
        flowItem fuel start
      else return [← fails .unclosedList t.start (some ⟨.flowList, start⟩)]

/-- An item between brackets with the ones after it. A member that stands here makes a set of its own. -/
def flowItem : Nat → Mark → Step (List Node)
  | 0, _ => return [.missing]
  | fuel + 1, start => do
    match ← peek? with
    | none => return [.missing]
    | some ⟨.flowListEnd, _⟩ =>
      advance
      count
      return []
    | some ⟨.key, place⟩ =>
      advance
      count
      let n := .members place none (← flowPair fuel)
      return n :: (← flowItems fuel start false)
    | some _ =>
      let n ← node fuel false false
      return n :: (← flowItems fuel start false)

/-- The member of a set of its own. Without key, what comes next is passed over. -/
def flowPair : Nat → Step (List (Node × Node))
  | 0 => return [(.missing, .missing)]
  | fuel + 1 => do
    let k ← match (← peek?).map Token.lexeme with
      | some .value | some .comma | some .flowListEnd =>
        advance
        empty
      | _ => node fuel false false
    let v ← flowValue fuel .flowListEnd
    if (← peek?).isSome then
      count
      return [(k, v)]
    else return [(k, v), (.missing, .missing)]

/-- The value of a member in a flow collection, if its colon comes next. -/
def flowValue : Nat → Lexeme → Step Node
  | 0, _ => return .missing
  | fuel + 1, close => do
    match (← peek?).map Token.lexeme with
    | none => return .missing
    | some .value =>
      advance
      match (← peek?).map Token.lexeme with
      | none => return .missing
      | some l => if l = .comma || l = close then empty else node fuel false false
    | some _ => empty

/-- The members between braces, of which perhaps none has been read. -/
def flowMembers : Nat → Mark → Bool → Step (List (Node × Node))
  | 0, _, _ => return [(.missing, .missing)]
  | fuel + 1, start, isFirst => do
    match ← peek? with
    | none => return [(.missing, .missing)]
    | some ⟨.flowMembersEnd, _⟩ =>
      advance
      count
      return []
    | some t =>
      if isFirst then flowMember fuel start
      else if t.lexeme = .comma then
        advance
        flowMember fuel start
      else return [(← fails .unclosedMembers t.start (some ⟨.flowMembers, start⟩), .missing)]

/-- A member between braces with the ones after it. -/
def flowMember : Nat → Mark → Step (List (Node × Node))
  | 0, _ => return [(.missing, .missing)]
  | fuel + 1, start => do
    match (← peek?).map Token.lexeme with
    | none => return [(.missing, .missing)]
    | some .flowMembersEnd =>
      advance
      count
      return []
    | some .key =>
      advance
      let k ← match (← peek?).map Token.lexeme with
        | some .value | some .comma | some .flowMembersEnd => empty
        | _ => node fuel false false
      let v ← flowValue fuel .flowMembersEnd
      return (k, v) :: (← flowMembers fuel start false)
    | some _ =>
      let k ← node fuel false false
      let v ← if (← peek?).isSome then empty else pure .missing
      return (k, v) :: (← flowMembers fuel start false)

end

/-- What handles stand for unless a directive says otherwise. -/
def standardHandles : List (String × Tag) :=
  [("!", [0x21]), ("!!", "tag:yaml.org,2002:".toUTF8.toList)]

/-- The directives before a document, after which its start must come. The result is whether it does. -/
def directives : Nat → Bool → Step Bool
  | 0, _ => return false
  | fuel + 1, hasVersion => do
    match ← peek? with
    | none => return false
    | some ⟨.version major minor, place⟩ =>
      let problem? := if hasVersion then some Problem.duplicateVersion
        else if major = 1 ∧ (minor = 1 ∨ minor = 2) then none else some .foreignVersion
      match problem? with
      | some problem =>
        let _ ← fails problem place none
        return false
      | none =>
        advance
        directives fuel true
    | some ⟨.tagHandle handle meaning, place⟩ =>
      if (OrderedMap.lookup handle (← get).handles).isSome then
        let _ ← fails .duplicateHandle place none
        return false
      else
        modify fun b => { b with handles := b.handles ++ [(handle, meaning)] }
        advance
        directives fuel hasVersion
    | some ⟨.documentStart, _⟩ =>
      advance
      return true
    | some t =>
      let _ ← fails .missingDocumentStart t.start none
      return false

/-- The outermost node of the first document, if there is a document. -/
def root (fuel : Nat) : Step (Option Node) := do
  let useStandard : Step Unit := modify fun b => { b with handles := b.handles ++ standardHandles }
  match (← peek?).map Token.lexeme with
  | some .textEnd => return none
  | some (.version _ _) | some (.tagHandle _ _) | some .documentStart =>
    if ← directives fuel false then
      useStandard
      match (← peek?).map Token.lexeme with
      | some (.version _ _) | some (.tagHandle _ _) | some .documentStart | some .documentEnd | some .textEnd =>
        return some (← empty)
      | _ => return some (← node fuel true false)
    else return some .missing
  | _ =>
    useStandard
    return some (← node fuel true false)

/-- Whether anything comes after a document, marks of its end apart. -/
def isFollowed (tokens : List Token) : Bool :=
  ((tokens.dropWhile fun t => t.lexeme = .documentEnd).head?.map Token.lexeme) != some .textEnd

end Building

/-- The first document of a text. -/
def Document.ofText (text : String) : Document :=
  let (tokens, error) := tokens text
  let (root, b) := (Building.root (4 * tokens.length + 8)).run { tokens, interruption := error.map .rule }
  { root
    anchors := b.places.filterMap fun (number, place) => (OrderedMap.lookup place b.nodes).map fun n => (number, n)
    size := b.size
    interruption := if b.tokens.isEmpty then b.interruption else none
    isFollowed := Building.isFollowed b.tokens }

end CriteriaStore.Yaml
