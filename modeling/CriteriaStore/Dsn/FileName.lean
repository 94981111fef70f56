import CriteriaStore.Dsn.Error
import CriteriaStore.Dsn.Escape
/-!
# File names of databases

A file name is a path, or it starts with `file:` and has a path with escapes and parameters after a question mark.
Parameters choose the access, the cache and the file system; others are ignored.
-/

namespace CriteriaStore.Dsn

/-- How much a file may be changed. -/
inductive Access where
  | none
  | readOnly
  | readWrite
  /-- The file is made when it is missing. -/
  | create
  deriving Repr, DecidableEq

/-- The order of accesses: one that is granted grants those below it. -/
def Access.rank : Access → Nat
  | none => 0
  | readOnly => 1
  | readWrite => 2
  | create => 3

/-- How a database is opened. -/
structure OpenMode where
  access : Access
  /-- Whether it is held in memory. -/
  inMemory : Bool := false
  /-- The file system to use. -/
  fileSystem : String := "unix"
  deriving Repr, DecidableEq

/-- What a file name says: a path and the parameters that come with it. -/
structure FileName where
  path : List UInt8
  parameters : List (String × String) := []
  deriving Repr, DecidableEq

namespace FileName

/-- A byte that stands for an ASCII character. -/
def ascii (c : Char) : UInt8 := UInt8.ofNat c.toNat

/-- A component with its escapes undone; a zero byte ends it. -/
def component (bs : List UInt8) : List UInt8 := (unescape bs).takeWhile (· ≠ 0)

/-- The text of a component. -/
def componentText (bs : List UInt8) : String := Text.ofBytesLenient (component bs)

/-- A parameter, cut at its first equals sign. -/
def parameter (bs : List UInt8) : String × String :=
  (componentText (bs.takeWhile (· ≠ ascii '=')), componentText ((bs.dropWhile (· ≠ ascii '=')).drop 1))

/-- What follows `file:` and the authority. A number sign ends the name, and parameters without a name do not
count. -/
def ofLocal (bs : List UInt8) : FileName :=
  let bs := bs.takeWhile (· ≠ ascii '#')
  { path := component (bs.takeWhile (· ≠ ascii '?'))
    parameters := ((((bs.dropWhile (· ≠ ascii '?')).drop 1).splitOn (ascii '&')).map parameter).filter fun p =>
      !p.1.isEmpty }

/-- The bytes with which names that carry parameters start. -/
def scheme : List UInt8 := Text.bytes "file:"

/-- What a file name says. An authority must be this host. -/
def ofBytes (bs : List UInt8) : Except DsnError FileName :=
  if scheme.isPrefixOf bs then
    let rest := bs.drop scheme.length
    if (Text.bytes "//").isPrefixOf rest then
      let authority := Text.ofBytesLenient ((rest.drop 2).takeWhile (· ≠ ascii '/'))
      if authority = "" ∨ authority = "localhost" then
        .ok (ofLocal ((rest.drop 2).dropWhile (· ≠ ascii '/')))
      else .error (.foreignAuthority authority)
    else .ok (ofLocal rest)
  else .ok { path := bs }

end FileName

namespace OpenMode

/-- The access that a word says. -/
def accessOfName? : String → Option (Access × Bool)
  | "ro" => some (.readOnly, false)
  | "rw" => some (.readWrite, false)
  | "rwc" => some (.create, false)
  | "memory" => some (.none, true)
  | _ => Option.none

/-- A mode with a parameter applied. A database that is not in memory gives no more access than before. -/
def set (m : OpenMode) (name value : String) : Except DsnError OpenMode :=
  match name with
  | "vfs" => .ok { m with fileSystem := value }
  | "cache" => if value = "shared" ∨ value = "private" then .ok m else .error (.unknownMode "cache" value)
  | "mode" =>
    match accessOfName? value with
    | Option.none => .error (.unknownMode "access" value)
    | some (access, inMemory) =>
      if m.inMemory ∨ access.rank ≤ m.access.rank then .ok { m with access, inMemory }
      else .error (.forbiddenMode value)
  | _ => .ok m

/-- The file systems that the engine knows. -/
def fileSystems : List String := ["unix", "unix-none", "unix-dotfile", "unix-excl", "memdb"]

/-- The directories that are expected in the root. -/
def directories : List String :=
  ["bin", "dev", "etc", "home", "lib", "opt", "proc", "root", "sbin", "sys", "tmp", "usr", "var"]

/-- A path with one more step. A step up takes back the step before it; `none` stands for one that leads above the
start. -/
def walk (steps : List (Option String)) (step : String) : List (Option String) :=
  if step = "" ∨ step = "." then steps
  else if step = ".." then
    match steps with
    | some _ :: rest => rest
    | steps => Option.none :: steps
  else some step :: steps

/-- The steps of a path, the last one first. -/
def steps (path : List Char) : List (Option String) := ((path.splitOn '/').map String.ofList).foldl walk []

/-- Whether a file can be made or opened for writing: it is no directory, and the directory that it is in exists.
Of the directories below the working directory none is expected. -/
def isReachable (path : String) : Bool :=
  let cs := path.toList
  if cs.head? = some '/' then
    match (steps cs).filterMap id with
    | [name] => !directories.contains name
    | [_, folder] => directories.contains folder
    | _ => false
  else
    match steps cs with
    | some _ :: rest => rest.all Option.isNone
    | _ => false

/-- Open a database. No file is expected to exist yet. -/
def openPath (m : OpenMode) (path : List UInt8) : Except DsnError Unit :=
  let text := Text.ofBytesLenient path
  if !fileSystems.contains m.fileSystem then .error (.unknownFileSystem m.fileSystem)
  else if m.inMemory || m.fileSystem = "memdb" || text = "" || text = ":memory:" then .ok ()
  else if m.access = .create && isReachable text then .ok ()
  else .error .unreachableFile

/-- Open the database that a file name says. -/
def openName (m : OpenMode) (name : List UInt8) : Except DsnError Unit := do
  let file ← FileName.ofBytes name
  let m ← file.parameters.foldlM (fun m p => m.set p.1 p.2) m
  m.openPath file.path

end OpenMode

end CriteriaStore.Dsn
