import CriteriaStore.Storage.Error
import CriteriaStore.Storage.Evaluation
/-!
# Tables

A table keeps its records in the order in which they were added; reading scans them in the order of the key
(`Table.scan`).

* `Table.insert` adds a record at the end, `Table.update` changes selected records in place and
  `Table.delete` drops them; a change that violates the declaration is refused as a whole.
* The checks on a record are those of `Table.violation?`, in that order: required values, the key, unique values.
-/

namespace CriteriaStore.Storage

/-- A table. -/
structure Table where
  schema : Schema
  records : List Record
  /-- The largest number that a sequential key has had. -/
  lastNumber : Int := 0

namespace Table

/-- The records in the order of the key. -/
def scan (t : Table) : List Record :=
  t.records.mergeSort fun a b => ((Record.cell a t.schema.key).order (Record.cell b t.schema.key)).isLE

/-- The selected records in the order of the key. -/
def matching (t : Table) (condition : Option Sql.Where) : List Record :=
  t.scan.filter (selects t.schema condition)

/-- Whether a column of a record has a value that one of the others has as well. -/
def taken (others : List Record) (r : Record) (column : String) : Bool :=
  !(Record.cell r column).isNull && others.any fun o => (Record.cell o column).same (Record.cell r column)

/-- Whether a column must have a value. -/
def demands (t : Table) (c : Column) : Bool :=
  c.required || (t.schema.keyKind == .natural && c.name == t.schema.key)

/-- What is wrong with a record that stands beside others. -/
def violation? (t : Table) (others : List Record) (r : Record) : Option StorageError :=
  match t.schema.columns.find? fun c => t.demands c && (Record.cell r c.name).isNull with
  | some c => some (.missingValue t.schema.name c.name)
  | none =>
    if taken others r t.schema.key then some (.duplicateKey t.schema.name t.schema.key)
    else
      t.schema.columns.findSome? fun c =>
        c.unique.bind fun effect =>
          if taken others r c.name then some (.duplicateValue t.schema.name c.name effect) else none

/-- Whether the key of a record is of the kind the table needs. -/
def keyFits (t : Table) (r : Record) : Bool :=
  match t.schema.keyKind, Record.cell r t.schema.key with
  | .natural, _ => true
  | _, .int _ => true
  | _, _ => false

/-- The largest number among the keys. -/
def largestNumber? (t : Table) : Option Int :=
  (t.records.filterMap fun r =>
    match Record.cell r t.schema.key with
    | .int n => some n.toInt
    | _ => none).max?

/-- The number of the next record that brings none. -/
def nextNumber (t : Table) : Int :=
  let next := match t.largestNumber? with
    | some n => n + 1
    | none => 1
  if t.schema.keyKind = .sequential then max next (t.lastNumber + 1) else next

/-- The value that assignments give a column: the last one for the number of a record, and else the first. -/
def assigned? (t : Table) (assignments : List (Column × Cell)) (c : Column) : Option Cell :=
  let values := (assignments.filter fun a => a.1.name = c.name).map Prod.snd
  if t.schema.keyKind != .natural && c.name == t.schema.key then values.getLast? else values.head?

/-- The record of assigned values; a column without one takes nothing. -/
def recordOf (t : Table) (assignments : List (Column × Cell)) : Record :=
  OrderedMap.ofList (t.schema.columns.map fun c => (c.name, (t.assigned? assignments c).elim .null c.type.store))

/-- A record with a number, if it needs one. -/
def numbered (t : Table) (r : Record) : Except StorageError Record :=
  if t.schema.keyKind = .natural || !(Record.cell r t.schema.key).isNull then .ok r
  else if t.nextNumber < Nat.pow 2 63 then .ok (r.insert t.schema.key (.int (Int64.ofInt t.nextNumber)))
  else .error .full

/-- The number under which a record of a numbered table is stored. -/
def numberOf? (t : Table) (r : Record) : Option Int64 :=
  match t.schema.keyKind, Record.cell r t.schema.key with
  | .natural, _ => none
  | _, .int n => some n
  | _, _ => none

/-- The columns of assignments, or the first name that is no column. -/
def resolve (t : Table) : List (String × Cell) → Except String (List (Column × Cell))
  | [] => .ok []
  | (name, v) :: rest =>
    match t.schema.column? name with
    | none => .error name
    | some c =>
      match t.resolve rest with
      | .ok cs => .ok ((c, v) :: cs)
      | .error e => .error e

/-- Add a record, which is returned with the table. -/
def insert (t : Table) (assignments : List (Column × Cell)) : Except StorageError (Table × Record) :=
  match t.numbered (t.recordOf assignments) with
  | .error e => .error e
  | .ok r =>
    if !t.keyFits r then .error .mismatchedKey
    else
      match t.violation? t.records r with
      | some e => .error e
      | none =>
        let last := match t.numberOf? r with
          | some n => max t.lastNumber n.toInt
          | none => t.lastNumber
        .ok ({ t with records := t.records ++ [r], lastNumber := last }, r)

/-- A record with assigned values; of several values for a column the last one counts. -/
def assign (assignments : List (Column × Cell)) (r : Record) : Record :=
  assignments.foldl (fun r a => r.insert a.1.name (a.1.type.store a.2)) r

/-- Change the selected ones of the records still to come, one after the other; `before` holds the records
already passed. -/
def updateFrom (t : Table) (select : Record → Bool) (change : Record → Record) (before : List Record) :
    List Record → Except StorageError (List Record)
  | [] => .ok before
  | r :: rest =>
    if select r then
      let r' := change r
      if !t.keyFits r' then .error .mismatchedKey
      else
        match t.violation? (before ++ rest) r' with
        | some e => .error e
        | none => t.updateFrom select change (before ++ [r']) rest
    else t.updateFrom select change (before ++ [r]) rest

/-- Change the selected records in place. -/
def update (t : Table) (condition : Option Sql.Where) (assignments : List (Column × Cell)) :
    Except StorageError Table :=
  match t.updateFrom (selects t.schema condition) (assign assignments) [] t.records with
  | .ok records => .ok { t with records }
  | .error e => .error e

/-- Drop the selected records. -/
def delete (t : Table) (condition : Option Sql.Where) : Table :=
  { t with records := t.records.filter fun r => !selects t.schema condition r }

end Table

end CriteriaStore.Storage
