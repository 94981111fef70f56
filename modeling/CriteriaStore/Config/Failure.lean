import CriteriaStore.Yaml.Failure
/-!
# Configuration failures

Why settings make no configuration: a value of the wrong type, a value out of range, a member that is not known,
each with the path of members that leads to it, or a connection string that is blank.
-/

namespace CriteriaStore

/-- What a setting may be expected to be. -/
inductive Expectation where
  | text
  | truth
  /-- A number that fits a word of 32 bits. -/
  | count
  | duration
  | pool
  | members
  deriving Repr, DecidableEq

/-- The wording of an expectation. -/
def Expectation.message : Expectation → String
  | text => "a string"
  | truth => "a boolean"
  | count => "u32"
  | duration => "a duration"
  | pool => "struct PoolConfig"
  | members => "map"

/-- A setting as messages show it. -/
def Setting.description : Setting → String
  | null => "unit"
  | bool b => "bool " ++ (if b then "true" else "false")
  | number (.unsigned n) => "unsigned int `" ++ toString n.toNat ++ "`"
  | number (.negative n) => "signed int `" ++ toString n.toInt ++ "`"
  | number (.float x) => "float `" ++ Scalar.floatText x ++ "`"
  | wide n => Yaml.describe (.wide n)
  | string s => "string " ++ Text.quoted s
  | array _ => "sequence"
  | object _ => "map"

/-- What is wrong with a setting. -/
inductive SettingFault where
  | wrongType (found : Setting) (expected : Expectation)
  | wrongValue (found : Setting) (expected : Expectation)
  | unknownMember (name : String) (known : List String)
  /-- A settings file that says no settings. -/
  | unreadable (why : Yaml.Failure)
  deriving Repr

/-- A list of names, as messages show what is known. -/
def SettingFault.alternatives : List String → String
  | [a] => "`" ++ a ++ "`"
  | [a, b] => "`" ++ a ++ "` or `" ++ b ++ "`"
  | names => "one of " ++ String.intercalate ", " (names.map fun a => "`" ++ a ++ "`")

/-- The wording of a fault. -/
def SettingFault.message : SettingFault → String
  | wrongType found expected => "invalid type: found " ++ found.description ++ ", expected " ++ expected.message
  | wrongValue found expected => "invalid value " ++ found.description ++ ", expected " ++ expected.message
  | unknownMember name known =>
    "unknown field: found `" ++ name ++ "`, expected `" ++ alternatives known ++ "`"
  | unreadable why => why.message

/-- A fault and the path of members that leads to it. -/
structure SettingFailure where
  fault : SettingFault
  path : List String := []
  deriving Repr

/-- The failure seen from one member further out. -/
def SettingFailure.within (f : SettingFailure) (name : String) : SettingFailure :=
  { f with path := name :: f.path }

/-- Why there is no configuration. -/
inductive ConfigError where
  | settings (failures : List SettingFailure)
  | blankDsn
  deriving Repr

/-- The wording of a configuration error. -/
def ConfigError.message : ConfigError → String
  | settings failures => String.intercalate "\n" (failures.map fun f => f.fault.message)
  | blankDsn => "Invalid configuration: dsn must not be empty"

end CriteriaStore
