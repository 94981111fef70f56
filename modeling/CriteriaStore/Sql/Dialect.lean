import CriteriaStore.Sql.Statement
/-!
# Dialects

Statements as text. A statement is first laid out as pieces, fixed text and placeholders; a dialect then
writes the pieces. So the text depends on the shape of a statement and never on the values bound to it, and
the values are those of the placeholders from left to right.

* A group of predicates inside another group is put in parentheses when it has more than one member.
* `BETWEEN` is put in parentheses when it stands beside another predicate.
-/

namespace CriteriaStore.Sql

/-- The supported dialects. -/
inductive Dialect where
  | sqlite
  | postgres
  | mysql
  deriving Repr, DecidableEq

/-- What is bound to a placeholder. -/
inductive Parameter where
  | value (v : Scalar)
  | rows (n : UInt64)
  deriving Repr, BEq

/-- A stretch of statement text, or a placeholder with what is bound to it. -/
inductive Piece where
  | text (s : String)
  | placeholder (p : Parameter)
  deriving Repr, BEq

namespace Dialect

/-- The character around names. -/
def quote : Dialect → Char
  | mysql => Char.ofNat 96
  | _ => '"'

/-- A name between quotes, the quote character written twice inside. -/
def name (d : Dialect) (s : String) : String :=
  let inner := s.toList.flatMap fun c => if c = d.quote then [c, c] else [c]
  String.ofList (d.quote :: inner ++ [d.quote])

/-- The literal that makes the backslash the escape character of a pattern. -/
def escapeLiteral : Dialect → String
  | sqlite => "'\\'"
  | postgres => "E'\\\\'"
  | mysql => "'\\\\'"

/-- The placeholder with a number, counted from one. -/
def placeholder : Dialect → Nat → String
  | postgres, n => "$" ++ toString n
  | _, _ => "?"

/-- The text of pieces, the next placeholder having a given number. -/
def writeFrom (d : Dialect) : Nat → List Piece → String
  | _, [] => ""
  | n, .text s :: rest => s ++ d.writeFrom n rest
  | n, .placeholder _ :: rest => d.placeholder n ++ d.writeFrom (n + 1) rest

/-- The text of pieces. -/
def write (d : Dialect) (pieces : List Piece) : String := d.writeFrom 1 pieces

end Dialect

/-- Parts with a separator between them. -/
def separated (separator : String) : List (List Piece) → List Piece
  | [] => []
  | [p] => p
  | p :: q :: rest => p ++ .text separator :: separated separator (q :: rest)

/-- Parts in parentheses. -/
def parenthesized (pieces : List Piece) : List Piece := .text "(" :: pieces ++ [.text ")"]

/-- The sign of a relation. -/
def Relation.sign : Relation → String
  | eq => "="
  | ne => "<>"
  | gt => ">"
  | ge => ">="
  | lt => "<"
  | le => "<="

/-- The pieces of a term. -/
def Term.pieces : Term → List Piece
  | null => [.text "NULL"]
  | bound v => [.placeholder (.value v)]

/-- The pieces of a predicate. -/
def Predicate.pieces (d : Dialect) : Predicate → List Piece
  | isNull c => [.text (d.name c ++ " IS NULL")]
  | isNotNull c => [.text (d.name c ++ " IS NOT NULL")]
  | compare c r v => .text (d.name c ++ " " ++ r.sign ++ " ") :: v.pieces
  | like c negated pattern =>
    [.text (d.name c ++ (if negated then " NOT LIKE " else " LIKE ")),
      .placeholder (.value (.text pattern)), .text (" ESCAPE " ++ d.escapeLiteral)]
  | between c negated low high =>
    .text (d.name c ++ (if negated then " NOT BETWEEN " else " BETWEEN ")) :: low.pieces
      ++ .text " AND " :: high.pieces
  | isIn c negated values =>
    .text (d.name c ++ (if negated then " NOT IN " else " IN "))
      :: parenthesized (separated ", " (values.map Term.pieces))

/-- The pieces of a predicate that stands beside another one. -/
def Predicate.memberPieces (d : Dialect) (p : Predicate) : List Piece :=
  match p with
  | between _ _ _ _ => parenthesized (p.pieces d)
  | _ => p.pieces d

/-- The pieces of a group of predicates on its own. -/
def groupPieces (d : Dialect) (separator : String) : List Predicate → List Piece
  | [p] => p.pieces d
  | ps => separated separator (ps.map (Predicate.memberPieces d))

/-- The pieces of a group of predicates beside another group. -/
def nestedGroupPieces (d : Dialect) (separator : String) : List Predicate → List Piece
  | [p] => p.memberPieces d
  | ps => parenthesized (groupPieces d separator ps)

/-- The pieces of a condition. -/
def Where.pieces (d : Dialect) (w : Where) : List Piece :=
  match w.required, w.alternatives with
  | ps, [] => groupPieces d " AND " ps
  | [], qs => groupPieces d " OR " qs
  | ps, qs => nestedGroupPieces d " AND " ps ++ .text " OR " :: nestedGroupPieces d " OR " qs

/-- The pieces of an optional condition. -/
def wherePieces (d : Dialect) : Option Where → List Piece
  | none => []
  | some w => .text " WHERE " :: w.pieces d

/-- The column list of a selection. -/
def Projection.text (d : Dialect) : Projection → String
  | all => "*"
  | columns names => ", ".intercalate (names.map d.name)
  | distinct [] => "DISTINCT *"
  | distinct names => "DISTINCT " ++ ", ".intercalate (names.map d.name)

/-- The text of one sort column. -/
def OrderTerm.text (d : Dialect) (t : OrderTerm) : String :=
  d.name t.column ++ (match t.direction with
    | .asc => " ASC"
    | .desc => " DESC")

/-- The sort clause, empty when nothing is sorted. -/
def orderText (d : Dialect) : List OrderTerm → String
  | [] => ""
  | terms => " ORDER BY " ++ ", ".intercalate (terms.map (OrderTerm.text d))

/-- A clause with one row number, left out when there is none. -/
def rowsPieces (keyword : String) : Option UInt64 → List Piece
  | none => []
  | some n => [.text keyword, .placeholder (.rows n)]

/-- The pieces of a selection. -/
def Select.pieces (d : Dialect) (s : Select) : List Piece :=
  .text ("SELECT " ++ s.projection.text d ++ " FROM " ++ d.name s.table) :: wherePieces d s.condition
    ++ [.text (orderText d s.order)] ++ rowsPieces " LIMIT " s.limit ++ rowsPieces " OFFSET " s.offset

/-- The pieces of a statement that changes a table. -/
def Write.pieces (d : Dialect) : Write → List Piece
  | update table assignments condition =>
    .text ("UPDATE " ++ d.name table ++ " SET ")
      :: separated ", " (assignments.map fun (c, v) => .text (d.name c ++ " = ") :: v.pieces)
      ++ wherePieces d condition
  | insert table [] => [.text ("INSERT INTO " ++ d.name table ++ " DEFAULT VALUES")]
  | insert table assignments =>
    .text ("INSERT INTO " ++ d.name table ++ " (" ++
        ", ".intercalate (assignments.map fun (c, _) => d.name c) ++ ") VALUES ")
      :: parenthesized (separated ", " (assignments.map fun (_, v) => v.pieces))
  | delete table condition => .text ("DELETE FROM " ++ d.name table) :: wherePieces d condition

/-- The pieces of a statement. -/
def Statement.pieces (d : Dialect) : Statement → List Piece
  | select q => q.pieces d
  | count table column condition =>
    .text ("SELECT COUNT(" ++ d.name column ++ ") AS " ++ d.name "total" ++ " FROM " ++ d.name table)
      :: wherePieces d condition
  | write w => w.pieces d

/-- The text of a statement. -/
def Statement.render (d : Dialect) (s : Statement) : String := d.write (s.pieces d)

/-- What a piece binds. -/
def Piece.parameter? : Piece → Option Parameter
  | text _ => none
  | placeholder p => some p

/-- What is bound to the placeholders of a statement, from left to right. -/
def Statement.bound (d : Dialect) (s : Statement) : List Parameter := (s.pieces d).filterMap Piece.parameter?

end CriteriaStore.Sql
