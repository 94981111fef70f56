import CriteriaStore.Criteria.Page
import CriteriaStore.Row
/-!
# Criteria as JSON

The JSON form of each criteria value. A page request leaves absent parts out; a page writes them as `null`.
-/

namespace CriteriaStore

namespace Operand

/-- The JSON form of an operand. -/
def toJson : Operand → Json
  | none => .string "none"
  | scalar v => .object [("scalar", v.toJson)]
  | pair low high => .object [("pair", .array [low.toJson, high.toJson])]
  | set values => .object [("set", .array (values.map Scalar.toJson))]

end Operand

/-- The JSON form of a condition. -/
def Condition.toJson (c : Condition) : Json :=
  .object [("property", .string c.property), ("operand", c.operand.toJson)]

/-- The JSON form of a branch: its groups, empty ones included. -/
def Branch.toJson (b : Branch) : Json :=
  .object (b.groups.entries.map fun (op, cs) => (op.name, .array (cs.map Condition.toJson)))

/-- The JSON form of a filter. -/
def Filter.toJson (f : Filter) : Json :=
  .object [("must", f.must.toJson), ("must_not", f.mustNot.toJson), ("should", f.should.toJson)]

/-- The JSON form of a sort key. -/
def SortKey.toJson (k : SortKey) : Json :=
  .object [("property", .string k.property), ("dir", .string k.direction.name)]

/-- The JSON form of a sort order. -/
def SortOrder.toJson (s : SortOrder) : Json := .array (s.keys.map SortKey.toJson)

/-- The JSON form of a field set. -/
def FieldSet.toJson (s : FieldSet) : Json := .array (s.names.map Json.string)

/-- The parts that a page request and a page share, with the names under which they are written. -/
def criteriaParts (sort : Option SortOrder) (filter : Option Filter) (fields distinct : Option FieldSet) :
    List (String × Option Json) :=
  [("sort", sort.map SortOrder.toJson), ("filter", filter.map Filter.toJson),
    ("fields", fields.map FieldSet.toJson), ("distinct_fields", distinct.map FieldSet.toJson)]

/-- The JSON form of a page request, without its absent parts. -/
def PageRequest.toJson (r : PageRequest) : Json :=
  .object ([("page_number", .word r.number), ("page_size", .word r.size)] ++
    (criteriaParts r.sort r.filter r.fields r.distinct).filterMap fun (k, v) => v.map (k, ·))

/-- The JSON form of a page of scalars, with `null` for its absent parts. -/
def Page.toJson (p : Page Scalar) : Json :=
  .object ([("content", .array (p.content.map Scalar.toJson)), ("total_elements", .word p.total),
      ("page_number", .word p.number), ("page_size", .word p.size), ("total_pages", .word p.pages)] ++
    (criteriaParts p.sort p.filter p.fields p.distinct).map fun (k, v) => (k, .ofOption v))

end CriteriaStore
