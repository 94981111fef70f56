import CriteriaStore.Config.Decoding
import CriteriaStore.Config.Environment
import CriteriaStore.Yaml.Node.Settings
/-!
# Sources of configurations

A configuration is read from layers: the defaults, then a settings file when there is one, then the environment
variables. Further layers may be put on top.
-/

namespace CriteriaStore

namespace Layer

/-- The layer of the defaults. -/
def defaults : Layer := ofJson (Configuration.toJson {})

/-- The layer of a settings file. -/
def ofYaml (s : String) : Layer :=
  match (Yaml.Document.ofText s).settings with
  | .ok members => .ok members
  | .error why => .error { fault := .unreadable why }

/-- The layer of environment variables. -/
def ofVariables (environment : List (String × String)) : Layer := .ok (Environment.settings environment)

/-- The layers that a configuration is read from, oldest first. -/
def stack (file : Option String) (environment : List (String × String)) : List Layer :=
  [defaults] ++ (file.map ofYaml).toList ++ [ofVariables environment]

end Layer

/-- The configuration that a settings file and environment variables say. -/
def Configuration.load (file : Option String) (environment : List (String × String)) :
    Except ConfigError Configuration :=
  ofLayers (Layer.stack file environment)

end CriteriaStore
