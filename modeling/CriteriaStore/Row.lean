import CriteriaStore.OrderedMap
import CriteriaStore.Scalar
/-!
# Rows

A row maps column names to scalars, in column order.
-/

namespace CriteriaStore

/-- Column names and their values, in column order. -/
abbrev Row := OrderedMap String Scalar

namespace Row

/-- The row of a JSON object; any other value gives the empty row. -/
def ofJson : Json → Row
  | .object members => OrderedMap.ofList (members.map fun (k, v) => (k, Scalar.ofJson v))
  | _ => OrderedMap.empty

/-- The JSON object of a row. -/
def toJson (r : Row) : Json := .object (r.entries.map fun (k, v) => (k, v.toJson))

end Row

end CriteriaStore
