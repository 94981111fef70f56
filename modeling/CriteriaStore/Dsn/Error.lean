import CriteriaStore.Sql.Dialect
import CriteriaStore.Text.Quoted
import CriteriaStore.Text.Utf8
/-!
# Connection errors

Why no pool can be connected for a connection string.
-/

namespace CriteriaStore

/-- Why no pool can be connected for a connection string. -/
inductive DsnError where
  /-- The scheme is that of no engine. -/
  | unknownScheme (dsn : String)
  /-- The engine is known but not available. -/
  | unavailable (engine : Sql.Dialect)
  | unknownValue (value parameter : String)
  | unknownParameter (name : String)
  /-- The path is no text, from a number of bytes on. -/
  | malformedPath (position : Nat) (chunk : Text.Chunk)
  /-- The path contains a zero byte. -/
  | zeroByte
  /-- The engine knows no file system of that name. -/
  | unknownFileSystem (name : String)
  /-- A file name asks for an access or a cache of an unknown kind. -/
  | unknownMode (kind value : String)
  /-- A file name asks for more access than there is. -/
  | forbiddenMode (value : String)
  /-- A file name is on another host. -/
  | foreignAuthority (authority : String)
  /-- The file cannot be opened. -/
  | unreachableFile
  deriving Repr, DecidableEq

/-- The name of an engine. -/
def Sql.Dialect.title : Sql.Dialect → String
  | sqlite => "SQLite"
  | postgres => "PostgreSQL"
  | mysql => "MySQL"

/-- The wording of an answer of the engine. -/
def DsnError.engineMessage (code : Nat) (text : String) : String :=
  "error returned from database: (code: " ++ toString code ++ ") " ++ text

/-- The wording of a connection error. -/
def DsnError.message : DsnError → String
  | unknownScheme dsn => "Unknown DSN: " ++ dsn
  | unavailable engine => "Feature not enabled: " ++ engine.title ++ " feature not enabled"
  | unknownValue value parameter =>
    "error with configuration: unknown value " ++ Text.quoted value ++ " for `" ++ parameter ++ "`"
  | unknownParameter name =>
    "error with configuration: unknown query parameter `" ++ name ++ "` while parsing connection URL"
  | malformedPath position chunk =>
    "error with configuration: " ++
      (if chunk.truncated then "incomplete utf-8 byte sequence from index " ++ toString position
        else "invalid utf-8 sequence of " ++ toString chunk.length ++ " bytes from index " ++ toString position)
  | zeroByte => "error communicating with database: filename passed to SQLite must not contain nul bytes"
  | unknownFileSystem name => engineMessage 1 ("no such vfs: " ++ name)
  | unknownMode kind value => engineMessage 1 ("no such " ++ kind ++ " mode: " ++ value)
  | forbiddenMode value => engineMessage 3 ("access mode not allowed: " ++ value)
  | foreignAuthority authority => engineMessage 1 ("invalid uri authority: " ++ authority)
  | unreachableFile => engineMessage 14 "unable to open database file"

end CriteriaStore
