import CriteriaStore.Mapping.PropertyMap
import CriteriaStore.Row
/-!
# Mappings

How the entities of one type are stored: in which table, under which identity column, which property in
which column, and how an entity becomes a row and back.
-/

namespace CriteriaStore

/-- The storage contract of one type of entities. -/
structure Mapping (ε : Type) where
  /-- The table the entities are stored in. -/
  table : String
  /-- The column that identifies an entity. -/
  identity : String
  properties : PropertyMap
  /-- Whether storage chooses the identity of a new row. -/
  generatesIdentity : Bool := false
  /-- The identity an entity carries; `null` when it has none yet. -/
  identityOf : ε → Scalar
  toRow : ε → Row
  ofRow? : Row → Option ε

namespace Mapping

variable {ε : Type}

/-- The property of the identity column. -/
def identityProperty (m : Mapping ε) : Except CriteriaError String :=
  match m.properties.propertyOf? m.identity with
  | some p => .ok p
  | none => .error (.unmappedIdentity m.table m.identity)

end Mapping

end CriteriaStore
