import CriteriaStore.Sql.Dialect
import CriteriaStore.Row
import CriteriaStore.Storage.Table
/-!
# Queries

Selections from a table. Records are selected in the order of the key, or against it when that is how they are sorted;
of equal ones only the first is kept when a selection is distinct, then they are sorted, and at last the asked stretch
is cut out.
-/

namespace CriteriaStore.Storage

namespace Schema

/-- The column names that a projection asks for. -/
def asked (s : Schema) : Sql.Projection → List String
  | .all => s.columnNames
  | .columns names => names
  | .distinct [] => s.columnNames
  | .distinct names => names

/-- The row of the named columns of a record. A cell that its column has no scalar for is left out; a name
that is no column appears, in quotes, with itself as its value. -/
def row (s : Schema) (names : List String) (r : Record) : Row :=
  OrderedMap.ofList (names.filterMap fun name =>
    match s.column? name with
    | some c => (c.type.read? (Record.cell r c.name)).map fun v => (c.name, v)
    | none => some (Sql.Dialect.sqlite.name name, .text name))

/-- Whether two records have the same cells in the named columns. -/
def agree (s : Schema) (names : List String) (a b : Record) : Bool :=
  names.all fun name => (s.cell a name).same (s.cell b name)

/-- Whether a record does not come after another one in a sort order. -/
def inOrder (s : Schema) : List Sql.OrderTerm → Record → Record → Bool
  | [], _, _ => true
  | term :: rest, a, b =>
    let o := (s.cell a term.column).order (s.cell b term.column)
    match if term.direction = .asc then o else o.swap with
    | .lt => true
    | .gt => false
    | .eq => s.inOrder rest a b

end Schema

/-- The items of a list that differ from every earlier one that was kept. -/
def firsts {α : Type} (eq : α → α → Bool) (l : List α) : List α :=
  l.foldl (fun kept a => if kept.any (eq · a) then kept else kept ++ [a]) []

/-- Whether a projection asks for different rows only. -/
def isDistinct : Sql.Projection → Bool
  | .distinct _ => true
  | _ => false

/-- A stretch of a list. -/
def stretch {α : Type} (offset limit : Option UInt64) (l : List α) : List α :=
  let rest := l.drop (offset.elim 0 UInt64.toNat)
  match limit with
  | some n => rest.take n.toNat
  | none => rest

namespace Table

/-- Whether a sort order starts with the key, the largest first. -/
def againstKey (t : Table) (order : List Sql.OrderTerm) : Bool :=
  order.head?.any fun term =>
    term.direction == .desc && (t.schema.column? term.column).any (·.name == t.schema.key)

/-- The records of a selection, before a stretch is cut out. -/
def ordered (t : Table) (q : Sql.Select) : List Record :=
  let names := t.schema.asked q.projection
  let found := t.matching q.condition
  let found := if t.againstKey q.order then found.reverse else found
  let kept := if isDistinct q.projection then firsts (t.schema.agree names) found else found
  kept.mergeSort (t.schema.inOrder q.order)

/-- The rows of a selection. -/
def rows (t : Table) (q : Sql.Select) : List Row :=
  (stretch q.offset q.limit (t.ordered q)).map (t.schema.row (t.schema.asked q.projection))

/-- How many selected records have a value in a column. -/
def count (t : Table) (column : String) (condition : Option Sql.Where) : Nat :=
  ((t.matching condition).filter fun r => !(t.schema.cell r column).isNull).length

end Table

end CriteriaStore.Storage
