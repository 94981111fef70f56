import CriteriaStore.OrderedMap
import CriteriaStore.Sql.Statement
import CriteriaStore.Storage.Pattern
import CriteriaStore.Storage.Schema
import CriteriaStore.Storage.Truth
/-!
# Conditions on records

A record has a cell for each column of its table. A condition is evaluated on it with three truth values
(`Where.holds`); a comparison converts the value to the column first, and a name that is no column stands for
itself as a text.
-/

namespace CriteriaStore.Storage

/-- The cells of one record, by column name in declaration order. -/
abbrev Record := OrderedMap String Cell

namespace Record

/-- The cell of a column; columns without one hold nothing. -/
def cell (r : Record) (column : String) : Cell := (r.get? column).getD .null

end Record

namespace Schema

/-- The cell that a name stands for in a record. -/
def cell (s : Schema) (r : Record) (name : String) : Cell :=
  match s.column? name with
  | some c => Record.cell r c.name
  | none => .text name

/-- A bound value as it is compared with what a name stands for. -/
def comparand (s : Schema) (name : String) (v : Sql.Term) : Cell :=
  let c := match v with
    | .null => Cell.null
    | .bound v => Cell.ofScalar v
  match s.column? name with
  | some column => column.type.comparand c
  | none => c

end Schema

/-- Whether an order of two cells satisfies a relation. -/
def relates (r : Sql.Relation) (o : Ordering) : Bool :=
  match r with
  | .eq => o.isEq
  | .ne => o.isNe
  | .gt => o.isGT
  | .ge => o.isGE
  | .lt => o.isLT
  | .le => o.isLE

/-- A relation between two cells; it is unknown when one holds nothing. -/
def Cell.compare (r : Sql.Relation) (a b : Cell) : Truth :=
  if a.isNull || b.isNull then .unknown else .ofBool (relates r (a.order b))

/-- Negation when it is asked for. -/
def Truth.negateIf (negated : Bool) (t : Truth) : Truth := if negated then t.not else t

/-- The value of a predicate on a record. -/
def holdsPredicate (s : Schema) (r : Record) : Sql.Predicate → Truth
  | .isNull c => .ofBool (s.cell r c).isNull
  | .isNotNull c => .ofBool !(s.cell r c).isNull
  | .compare c relation v => (s.cell r c).compare relation (s.comparand c v)
  | .like c negated pattern =>
    match (s.cell r c).toText? with
    | some text => (Truth.ofBool (likeText pattern text)).negateIf negated
    | none => .unknown
  | .between c negated low high =>
    (((s.cell r c).compare .ge (s.comparand c low)).and
      ((s.cell r c).compare .le (s.comparand c high))).negateIf negated
  | .isIn c negated values =>
    (Truth.any (values.map fun v => (s.cell r c).compare .eq (s.comparand c v))).negateIf negated

/-- The value of a condition on a record. -/
def holds (s : Schema) (r : Record) (w : Sql.Where) : Truth :=
  match w.required with
  | [] => Truth.any (w.alternatives.map (holdsPredicate s r))
  | ps => (Truth.all (ps.map (holdsPredicate s r))).or (Truth.any (w.alternatives.map (holdsPredicate s r)))

/-- Whether a record is selected by an optional condition. -/
def selects (s : Schema) (condition : Option Sql.Where) (r : Record) : Bool :=
  condition.all fun w => holds s r w == .yes

end CriteriaStore.Storage
