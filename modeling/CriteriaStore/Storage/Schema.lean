import CriteriaStore.Storage.Column
/-!
# Schemas

The declaration of a table. Names are looked up without regard to the case of ASCII letters; a table whose
key is numbered also answers to the names under which every record number is known.
-/

namespace CriteriaStore.Storage

/-- How the key of a table comes about. -/
inductive KeyKind where
  /-- Records are numbered; a record without number takes the one after the largest. -/
  | numbered
  /-- Records are numbered, and a number that was ever taken is not given again. -/
  | sequential
  /-- The key is a value like any other and must be given. -/
  | natural
  deriving Repr, DecidableEq

/-- The declaration of a table. -/
structure Schema where
  name : String
  columns : List Column
  /-- The name of the key column. -/
  key : String
  keyKind : KeyKind
  deriving Repr, DecidableEq

/-- Whether two names are the same apart from the case of ASCII letters. -/
def sameName (a b : String) : Bool := a.toLower == b.toLower

namespace Schema

/-- The names of the columns, in declaration order. -/
def columnNames (s : Schema) : List String := s.columns.map Column.name

/-- Whether a name stands for the number of a record. -/
def isRecordNumber (s : Schema) (name : String) : Bool :=
  s.keyKind != .natural && ["rowid", "oid", "_rowid_"].contains name.toLower

/-- The column that a name stands for. -/
def column? (s : Schema) (name : String) : Option Column :=
  match s.columns.find? fun c => sameName c.name name with
  | some c => some c
  | none => if s.isRecordNumber name then s.columns.find? fun c => c.name = s.key else none

end Schema

end CriteriaStore.Storage
