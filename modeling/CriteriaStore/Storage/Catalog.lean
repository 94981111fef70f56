import CriteriaStore.Storage.Table
/-!
# Catalogues

Tables that tell of a database: what it holds, and its version. They can be read like any table, and no statement changes
them.
-/

namespace CriteriaStore.Storage.Catalog

/-- A type in a declaration, if there is one. -/
def typeText : ColumnType → String
  | .integer => " INTEGER"
  | .real => " REAL"
  | .text => " TEXT"
  | .boolean => " BOOLEAN"
  | .untyped => ""

/-- The part of a declaration that makes a column the key. -/
def keyText : KeyKind → String
  | .sequential => " PRIMARY KEY AUTOINCREMENT"
  | _ => " PRIMARY KEY"

/-- The declaration of a column. A reference is declared to be checked late, like all that there are. -/
def columnText (s : Schema) (c : Column) : String :=
  c.name ++ typeText c.type
    ++ (if c.name = s.key then keyText s.keyKind else "")
    ++ (if c.required then " NOT NULL" else "")
    ++ c.references.elim "" (fun table => " REFERENCES " ++ table ++ " DEFERRABLE INITIALLY DEFERRED")
    ++ match c.unique with
      | some .transaction => " UNIQUE ON CONFLICT ROLLBACK"
      | some .statement => " UNIQUE"
      | none => ""

/-- The declaration of a table. -/
def tableText (s : Schema) : String :=
  "CREATE TABLE " ++ s.name ++ "(" ++ ", ".intercalate (s.columns.map (columnText s)) ++ ")"
    ++ (if s.keyKind = .natural then " WITHOUT ROWID" else "")

/-- Something that a database holds. -/
structure Entry where
  kind : String
  name : String
  table : String
  declaration : Option String

/-- The entry that a table keeps its largest numbers in. -/
def sequence : Entry :=
  ⟨"table", "sqlite_sequence", "sqlite_sequence", some "CREATE TABLE sqlite_sequence(name,seq)"⟩

/-- The entries of tables, in the order in which they were declared. Unique columns have an index each, and the first
table that never gives a number twice is followed by the table of the numbers given. -/
def entries (isFirst : Bool) : List Schema → List Entry
  | [] => []
  | s :: rest =>
    let opens := isFirst && s.keyKind = .sequential
    ⟨"table", s.name, s.name, some (tableText s)⟩ :: (if opens then [sequence] else [])
      ++ (s.columns.filter (·.unique.isSome)).mapIdx (fun i _ =>
        ⟨"index", "sqlite_autoindex_" ++ s.name ++ "_" ++ toString (i + 1), s.name, none⟩)
      ++ entries (isFirst && !opens) rest

/-- The declaration of a listing. -/
def schema (name : String) : Schema where
  name := name
  columns := [
    { name := "type", type := .text },
    { name := "name", type := .text },
    { name := "tbl_name", type := .text },
    { name := "rootpage", type := .integer },
    { name := "sql", type := .text }]
  key := "rowid"
  keyKind := .numbered

/-- The record of an entry, the first of which has the number zero. The first page is that of the listing. -/
def record (number : Nat) (e : Entry) : Record :=
  OrderedMap.ofList [
    ("rowid", .int (Int64.ofNat (number + 1))),
    ("type", .text e.kind),
    ("name", .text e.name),
    ("tbl_name", .text e.table),
    ("rootpage", .int (Int64.ofNat (number + 2))),
    ("sql", e.declaration.elim .null .text)]

/-- The version that a database was given by its user, which was not given any: one number, in a column without type. -/
def userVersion : Table where
  schema := {
    name := "pragma_user_version"
    columns := [{ name := "user_version", type := .untyped }]
    key := "rowid"
    keyKind := .numbered }
  records := [OrderedMap.ofList [("rowid", .int 1), ("user_version", .int 0)]]

/-- The listings of a database: of the tables, of the temporary ones, of which there are none, and its version. -/
def listings (tables : List Table) : List Table := [
  { schema := schema "sqlite_master", records := (entries true (tables.map Table.schema)).mapIdx record },
  { schema := schema "sqlite_temp_master", records := [] },
  userVersion]

/-- The second name of a listing. -/
def secondName? (name : String) : Option String :=
  if name = "sqlite_master" then some "sqlite_schema"
  else if name = "sqlite_temp_master" then some "sqlite_temp_schema"
  else none

/-- Whether a name is one of those of a listing. -/
def answersTo (t : Table) (name : String) : Bool :=
  sameName t.schema.name name || (secondName? t.schema.name).any (sameName · name)

end CriteriaStore.Storage.Catalog
