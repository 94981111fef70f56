import CriteriaStore.Criteria.Encoding
/-!
# Criteria from JSON

The readers that undo `Criteria.Encoding`. They are lenient in two ways: a record may be an object with
further members, or an array of its fields in order, and a name may be written as a string or as an object
with that one member.
-/

namespace CriteriaStore

/-- Why a JSON value is no criteria value. -/
inductive DecodingError where
  /-- The value does not have the form. -/
  | malformed
  /-- The value has the form but what it says is refused. -/
  | refused (e : CriteriaError)
  deriving Repr, DecidableEq

namespace Decoding

/-- The fields of a record by name. In an array the fields stand in order, and none may be left over. -/
def record? (names : List String) : Json → Option (List (Option Json))
  | .object members => some (names.map fun n => Json.member? n members)
  | .array items =>
    if items.length ≤ names.length then
      some (items.map some ++ List.replicate (names.length - items.length) none)
    else none
  | _ => none

/-- The name of a variant without content: a string, or an object that maps the name to `null`. -/
def variantName? : Json → Option String
  | .string s => some s
  | .object [(k, .null)] => some k
  | _ => none

/-- The text of a string. -/
def text? : Json → Option String
  | .string s => some s
  | _ => none

/-- The word of a number. -/
def word? : Json → Option UInt64
  | .number n => n.toUInt64?
  | _ => none

/-- The items of an array, all of them read by `read`. -/
def list? {α : Type} (read : Json → Option α) : Json → Option (List α)
  | .array items => items.mapM read
  | _ => none

/-- An optional field: absent and `null` both read as nothing. -/
def optional? {α : Type} (read : Json → Option α) : Option Json → Option (Option α)
  | none => some none
  | some .null => some none
  | some v => (read v).map some

end Decoding

open Decoding

/-- A scalar. Integers outside the signed words become floats; arrays and objects are refused. -/
def Scalar.decode? : Json → Option Scalar
  | .null => some .null
  | .bool b => some (.bool b)
  | .number n =>
    match n.toInt64? with
    | some i => some (.int i)
    | none => some (.float n.toFloat)
  | .string s => some (.text s)
  | .array _ => none
  | .object _ => none

/-- A row: an object of scalars. -/
def Row.decode? : Json → Option Row
  | .object members => do
    let pairs ← members.mapM fun (k, v) => do
      let v ← Scalar.decode? v
      some (k, v)
    some (OrderedMap.ofList pairs)
  | _ => none

/-- An operator by name. -/
def Operator.decode? (v : Json) : Option Operator := do
  let name ← variantName? v
  Operator.ofName? name

/-- An operand: the name `none`, or an object with exactly one of the other forms. -/
def Operand.decode? : Json → Option Operand
  | .string s => if s = "none" then some .none else Option.none
  | .object [(k, v)] =>
    if k = "none" then
      match v with
      | .null => some .none
      | _ => Option.none
    else if k = "scalar" then (Scalar.decode? v).map .scalar
    else if k = "pair" then
      match v with
      | .array [low, high] => do
        let low ← Scalar.decode? low
        let high ← Scalar.decode? high
        some (.pair low high)
      | _ => Option.none
    else if k = "set" then (list? Scalar.decode? v).map .set
    else Option.none
  | _ => Option.none

/-- A condition; both fields are required. -/
def Condition.decode? (v : Json) : Option Condition := do
  match ← record? ["property", "operand"] v with
  | [some property, some operand] =>
    let property ← text? property
    let operand ← Operand.decode? operand
    some ⟨property, operand⟩
  | _ => none

/-- A branch: an object from operator names to lists of conditions, empty lists and sets kept. -/
def Branch.decode? : Json → Option Branch
  | .object members => do
    let groups ← members.mapM fun (k, v) => do
      let op ← Operator.ofName? k
      let conditions ← list? Condition.decode? v
      some (op, conditions)
    some ⟨OrderedMap.ofList groups⟩
  | _ => none

/-- A branch of a filter, empty when absent. -/
def Branch.decodeField? : Option Json → Option Branch
  | none => some .empty
  | some v => Branch.decode? v

/-- A filter; absent branches are empty. -/
def Filter.decode? (v : Json) : Option Filter := do
  match ← record? ["must", "must_not", "should"] v with
  | [must, mustNot, should] =>
    let must ← Branch.decodeField? must
    let mustNot ← Branch.decodeField? mustNot
    let should ← Branch.decodeField? should
    some { must, mustNot, should }
  | _ => none

/-- A sort key; both fields are required. -/
def SortKey.decode? (v : Json) : Option SortKey := do
  match ← record? ["property", "dir"] v with
  | [some property, some direction] =>
    let property ← text? property
    let name ← variantName? direction
    let direction ← Direction.ofName? name
    some ⟨property, direction⟩
  | _ => none

/-- A sort order; repeated properties are kept. -/
def SortOrder.decode? (v : Json) : Option SortOrder := (list? SortKey.decode? v).map SortOrder.mk

/-- A field set; repeated properties collapse. -/
def FieldSet.decode? (v : Json) : Option FieldSet := (list? text? v).map FieldSet.ofList

/-- The names of the fields of a page request, in order. -/
def PageRequest.fieldNames : List String :=
  ["page_number", "page_size", "sort", "filter", "fields", "distinct_fields"]

/-- A page request. Its number and size are checked once the whole value has the form. -/
def PageRequest.decode (v : Json) : Except DecodingError PageRequest :=
  let parts : Option (UInt64 × UInt64 × Option SortOrder × Option Filter × Option FieldSet × Option FieldSet) := do
    match ← record? fieldNames v with
    | [some number, some size, sort, filter, fields, distinct] =>
      let number ← word? number
      let size ← word? size
      let sort ← optional? SortOrder.decode? sort
      let filter ← optional? Filter.decode? filter
      let fields ← optional? FieldSet.decode? fields
      let distinct ← optional? FieldSet.decode? distinct
      some (number, size, sort, filter, fields, distinct)
    | _ => none
  match parts with
  | none => .error .malformed
  | some (number, size, sort, filter, fields, distinct) =>
    match PageRequest.create number size with
    | .error e => .error (.refused e)
    | .ok r => .ok { r with sort, filter, fields, distinct }

/-- The names of the fields of a page, in order. -/
def Page.fieldNames : List String :=
  ["content", "total_elements", "page_number", "page_size", "total_pages", "sort", "filter", "fields",
    "distinct_fields"]

/-- Whether every field of a record is given. Only an object may leave optional fields out. -/
def Decoding.isComplete (v : Json) (count : Nat) : Bool :=
  match v with
  | .array items => items.length == count
  | _ => true

/-- A page of scalars. Its numbers are taken as they are. -/
def Page.decode? (v : Json) : Option (Page Scalar) := do
  let fields ← record? Page.fieldNames v
  if !isComplete v Page.fieldNames.length then none
  else
    match fields with
    | [some content, some total, some number, some size, some pages, sort, filter, fields, distinct] =>
      let content ← list? Scalar.decode? content
      let total ← word? total
      let number ← word? number
      let size ← word? size
      let pages ← word? pages
      let sort ← optional? SortOrder.decode? sort
      let filter ← optional? Filter.decode? filter
      let fields ← optional? FieldSet.decode? fields
      let distinct ← optional? FieldSet.decode? distinct
      some { content, total, number, size, pages, sort, filter, fields, distinct }
    | _ => none

end CriteriaStore
