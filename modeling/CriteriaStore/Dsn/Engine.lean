import CriteriaStore.Dsn.Error
import CriteriaStore.Text.Blank
/-!
# Engines of connection strings

The scheme of a connection string says its engine. Blanks before it are ignored, and its case matters.
-/

namespace CriteriaStore.Dsn

/-- The schemes and their engines. -/
def schemes : List (String × Sql.Dialect) :=
  [("postgres://", .postgres), ("postgresql://", .postgres), ("mysql://", .mysql), ("sqlite:", .sqlite)]

/-- The engine of a connection string. -/
def engine (dsn : String) : Except DsnError Sql.Dialect :=
  let start := (Text.trimStart dsn).toList
  match schemes.find? fun (scheme, _) => scheme.toList.isPrefixOf start with
  | some (_, engine) => .ok engine
  | none => .error (.unknownScheme dsn)

end CriteriaStore.Dsn
