import CriteriaStore.Criteria.Error
import CriteriaStore.OrderedMap
/-!
# Property maps

An ordered dictionary from properties, the names criteria use, to columns, the names storage uses. Several
properties may share a column.
-/

namespace CriteriaStore

/-- Properties and their columns, in declaration order. -/
abbrev PropertyMap := OrderedMap String String

namespace PropertyMap

/-- The column of a property. -/
def column (m : PropertyMap) (property : String) : Except CriteriaError String :=
  match m.get? property with
  | some c => .ok c
  | none => .error (.unmappedProperty property)

/-- The first property stored in a column. -/
def propertyOf? (m : PropertyMap) (column : String) : Option String :=
  (m.entries.find? fun e => e.2 = column).map Prod.fst

/-- The columns, in declaration order. -/
def columns (m : PropertyMap) : List String := m.values

end PropertyMap

end CriteriaStore
