import CriteriaStore.Mapping.Mapping
/-!
# Flattening

A flattener turns an entity into the row to be written. One takes the row the mapping gives; the other
serializes the entity, lists the leaves of the JSON value with their dotted paths and reads each mapped
property from them, the last leaf of a path winning.
-/

namespace CriteriaStore

/-- The path of a member below a path; nothing is put before a member of the root. -/
def memberPath (path key : String) : String := if path.isEmpty then key else path ++ "." ++ key

namespace Json

mutual

/-- The leaves of a value below a path, in document order. Every value but an object is a leaf. -/
def leaves (path : String) : Json → List (String × Scalar)
  | object members => memberLeaves path members
  | v => [(path, Scalar.ofJson v)]

/-- The leaves of the members of an object. -/
def memberLeaves (path : String) : List (String × Json) → List (String × Scalar)
  | [] => []
  | (k, v) :: rest => leaves (memberPath path k) v ++ memberLeaves path rest

end

end Json

/-- How an entity becomes the row to be written. -/
abbrev Flattener (ε : Type) := Mapping ε → ε → Except CriteriaError Row

namespace Flattener

variable {ε : Type}

/-- The row that the mapping gives. -/
def mapped : Flattener ε := fun m e => .ok (m.toRow e)

/-- The columns of the listed properties, each read from the leaves by path. -/
def collect (table : String) (flat : OrderedMap String Scalar) :
    List (String × String) → Row → Except CriteriaError Row
  | [], row => .ok row
  | (property, column) :: rest, row =>
    match flat.get? property with
    | some v => collect table flat rest (row.insert column v)
    | none => .error (.unflattenable table (.notExposed property))

/-- The row read from the serialized entity. -/
def serialized (serialize : ε → Except String Json) : Flattener ε := fun m e =>
  match serialize e with
  | .error text => .error (.unflattenable m.table (.serializer text))
  | .ok v => collect m.table (OrderedMap.ofList (v.leaves "")) m.properties.entries OrderedMap.empty

end Flattener

end CriteriaStore
