import CriteriaStore.Dsn.FileName
/-!
# Connection strings of SQLite

After the scheme stands the file name of the database, with escapes, or `:memory:`; after a question mark stand
parameters, of which later ones win over earlier ones.
-/

namespace CriteriaStore.Dsn

/-- What a connection string of SQLite says. -/
structure SqliteTarget where
  path : String
  inMemory : Bool := false
  sharedCache : Bool := false
  readOnly : Bool := false
  immutable : Bool := false
  /-- The file system to use. -/
  fileSystem : Option String := none
  deriving Repr, DecidableEq

/-- A text without all the copies of a word with which it starts, given a bound on their number. -/
def dropRepeated (word : List Char) : Nat → List Char → List Char
  | 0, cs => cs
  | k + 1, cs => if word.isPrefixOf cs then dropRepeated word k (cs.drop word.length) else cs

/-- A connection string without its scheme, which may be repeated. -/
def withoutScheme (cs : List Char) : List Char :=
  dropRepeated "sqlite:".toList cs.length (dropRepeated "sqlite://".toList cs.length cs)

/-- A target with a parameter applied. -/
def SqliteTarget.set (t : SqliteTarget) (name value : String) : Except DsnError SqliteTarget :=
  match name, value with
  | "mode", "ro" => .ok { t with readOnly := true }
  | "mode", "rw" | "mode", "rwc" => .ok t
  | "mode", "memory" => .ok { t with inMemory := true, sharedCache := true }
  | "cache", "private" => .ok { t with sharedCache := false }
  | "cache", "shared" => .ok { t with sharedCache := true }
  | "immutable", "true" | "immutable", "1" => .ok { t with immutable := true }
  | "immutable", "false" | "immutable", "0" => .ok { t with immutable := false }
  | "vfs", _ => .ok { t with fileSystem := some value }
  | "mode", _ | "cache", _ | "immutable", _ => .error (.unknownValue value name)
  | _, _ => .error (.unknownParameter name)

/-- The target of a path, before any parameter. -/
def SqliteTarget.ofPath (cs : List Char) : Except DsnError SqliteTarget :=
  if cs = ":memory:".toList then .ok { path := "file:memory", inMemory := true, sharedCache := true }
  else
    let path := unescape (Text.bytes (String.ofList cs))
    match Text.firstFault? 0 (Text.chunks path) with
    | some (position, chunk) => .error (.malformedPath position chunk)
    | none => .ok { path := Text.ofBytesLenient path }

/-- What a connection string of SQLite says. -/
def SqliteTarget.ofDsn (dsn : String) : Except DsnError SqliteTarget := do
  let cs := withoutScheme dsn.toList
  let target ← ofPath (cs.takeWhile (· ≠ '?'))
  (parameters ((cs.dropWhile (· ≠ '?')).drop 1)).foldlM (fun t (name, value) => t.set name value) target

/-- The parameters that a target passes on in its file name. -/
def SqliteTarget.passed (t : SqliteTarget) : List (List UInt8) :=
  (if t.immutable then [Text.bytes "immutable=true"] else [])
    ++ (t.fileSystem.map fun name => Text.bytes "vfs=" ++ parameterBytes name).toList

/-- The file name of a target. With parameters, all but letters and digits of the path are escaped. -/
def SqliteTarget.fileName (t : SqliteTarget) : List UInt8 :=
  if t.passed.isEmpty then Text.bytes t.path
  else Text.bytes "file:" ++ escape isAlphanumeric (Text.bytes t.path) ++ Text.bytes "?"
    ++ (Text.bytes "&").intercalate t.passed

/-- Open the database of a target; a file that is missing is made. -/
def SqliteTarget.check (t : SqliteTarget) : Except DsnError Unit :=
  if t.fileName.contains 0 then .error .zeroByte
  else
    OpenMode.openName { access := if t.readOnly then .readOnly else .create, inMemory := t.inMemory } t.fileName

end CriteriaStore.Dsn
