import CriteriaStore.Config.EnvironmentValue
import CriteriaStore.Config.Layering
/-!
# Settings from environment variables

A variable whose name starts with `REPOKIT_`, in any case, says the setting whose path is the rest of its name in
lower case; two underscores, or a point, lead one level deeper. White space around the name and around the rest of
it does not count.
-/

namespace CriteriaStore.Environment

/-- What the names of variables start with, in lower case. -/
def nameStart : List Char := "repokit_".toList

/-- The steps of a path: what stands between two underscores or points. -/
def splitSteps : List Char → List (List Char)
  | [] => [[]]
  | '_' :: '_' :: rest => [] :: splitSteps rest
  | '.' :: rest => [] :: splitSteps rest
  | c :: rest =>
    match splitSteps rest with
    | step :: steps => (c :: step) :: steps
    | [] => [[c]]

/-- The path of the setting that a variable says, if it says one. -/
def path? (name : String) : Option (List String) :=
  let cs := (Text.trim name).toList.map Char.toLower
  if nameStart.isPrefixOf cs then
    let steps := splitSteps (Text.trimChars (cs.drop nameStart.length))
    if steps.any List.isEmpty then none else some (steps.map String.ofList)
  else none

/-- The members of the settings that variables say. A variable that is set again keeps its place; later variables
are merged over earlier ones. -/
def settings (environment : List (String × String)) : List (String × Setting) :=
  (OrderedMap.ofList environment).entries.foldl (fun members (name, value) =>
    match path? name with
    | some (step :: steps) =>
      Setting.mergeMembers members [(step, Setting.nest steps (EnvironmentValue.read value))]
    | _ => members) []

end CriteriaStore.Environment
