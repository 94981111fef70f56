import CriteriaStore.Json.Value
/-!
# Settings

The values that configurations are read from, whatever text they were written in. They are those of JSON and
integers of any size.
-/

namespace CriteriaStore

/-- A value of a setting. -/
inductive Setting where
  | null
  | bool (b : Bool)
  | number (n : Number)
  /-- An integer that fits no word. -/
  | wide (n : Int)
  | string (s : String)
  | array (items : List Setting)
  | object (members : List (String × Setting))
  deriving Repr, Inhabited

namespace Setting

mutual

/-- A JSON value as a setting. -/
def ofJson : Json → Setting
  | .null => .null
  | .bool b => .bool b
  | .number n => .number n
  | .string s => .string s
  | .array items => .array (ofItems items)
  | .object members => .object (ofMembers members)

/-- JSON values as settings. -/
def ofItems : List Json → List Setting
  | [] => []
  | v :: rest => ofJson v :: ofItems rest

/-- The members of a JSON object as settings. -/
def ofMembers : List (String × Json) → List (String × Setting)
  | [] => []
  | (name, v) :: rest => (name, ofJson v) :: ofMembers rest

end

end Setting

end CriteriaStore
