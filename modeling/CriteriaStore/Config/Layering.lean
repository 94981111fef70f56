import CriteriaStore.Config.Setting
import CriteriaStore.OrderedMap
/-!
# Layers of settings

A newer layer of settings is merged over an older one: objects are merged member by member, and any
other value replaces what was there.
-/

namespace CriteriaStore.Setting

mutual

/-- A newer value over an older one. -/
def merge : Setting → Setting → Setting
  | .object old, .object new => .object (mergeMembers old new)
  | _, new => new

/-- Newer members over older ones. -/
def mergeMembers (old : List (String × Setting)) : List (String × Setting) → List (String × Setting)
  | [] => old
  | (k, new) :: rest =>
    match OrderedMap.lookup k old with
    | some v => mergeMembers (OrderedMap.put k (merge v new) old) rest
    | none => mergeMembers (OrderedMap.put k new old) rest

end

/-- A value at the end of a path of members. -/
def nest (path : List String) (v : Setting) : Setting := path.foldr (fun k v => object [(k, v)]) v

end CriteriaStore.Setting
