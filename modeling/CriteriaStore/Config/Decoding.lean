import CriteriaStore.Config.Configuration
import CriteriaStore.Config.Failure
import CriteriaStore.Config.Layering
/-!
# Configurations from settings

Members are read in the order of their names and the first failure is reported; members that are absent keep the
defaults, and members that are not known are refused. The pool may also be an array of its options in the order in
which they are written.
-/

namespace CriteriaStore

namespace Setting

/-- A text. -/
def text : Setting → Except SettingFailure String
  | .string s => .ok s
  | v => .error { fault := .wrongType v .text }

/-- A truth value. -/
def truth : Setting → Except SettingFailure Bool
  | .bool b => .ok b
  | v => .error { fault := .wrongType v .truth }

/-- A number that fits a word of 32 bits. -/
def count : Setting → Except SettingFailure UInt32
  | .number (.unsigned n) =>
    if n.toNat < UInt32.size then .ok n.toUInt32 else .error { fault := .wrongValue (.number (.unsigned n)) .count }
  | .number (.negative n) =>
    if 0 ≤ n.toInt ∧ n.toInt < UInt32.size then .ok (UInt32.ofNat n.toInt.toNat)
    else .error { fault := .wrongValue (.number (.negative n)) .count }
  | v => .error { fault := .wrongType v .count }

/-- A duration, written as text. -/
def duration : Setting → Except SettingFailure Duration
  | .string s =>
    match Duration.read? s with
    | some d => .ok d
    | none => .error { fault := .wrongValue (.string s) .duration }
  | v => .error { fault := .wrongType v .duration }

/-- A setting that may also be `null`. -/
def optional {α : Type} (read : Setting → Except SettingFailure α) : Setting → Except SettingFailure (Option α)
  | .null => .ok none
  | v => (read v).map some

/-- A setting of a record: what leads to it, the name of the field that it sets, and its value. -/
structure Field where
  step : String
  name : String
  value : Setting

/-- The members of an object in the order of their names. -/
def memberFields (members : List (String × Setting)) : List Field :=
  (members.mergeSort fun a b => decide (a.1 ≤ b.1)).map fun (k, v) => ⟨k, k, v⟩

/-- The items of an array, which stand for the fields of a record in order. -/
def itemFields (names : List String) (items : List Setting) : List Field :=
  (names.zip items).zipIdx.map fun ((name, v), i) => ⟨toString i, name, v⟩

/-- A record with its fields set one after the other. -/
def setAll {α : Type} (set : α → String → Setting → Except SettingFailure α) (start : α) (fields : List Field) :
    Except SettingFailure α :=
  fields.foldlM (fun a f => (set a f.name f.value).mapError (·.within f.step)) start

end Setting

/-- Options with one of them set. -/
def PoolOptions.set (p : PoolOptions) (name : String) (v : Setting) : Except SettingFailure PoolOptions :=
  match name with
  | "max_conns" => (Setting.optional Setting.count v).map fun x => { p with maxConns := x }
  | "min_conns" => (Setting.optional Setting.count v).map fun x => { p with minConns := x }
  | "acquire_timeout" => (Setting.optional Setting.duration v).map fun x => { p with acquireTimeout := x }
  | "idle_timeout" => (Setting.optional Setting.duration v).map fun x => { p with idleTimeout := x }
  | "max_lifetime" => (Setting.optional Setting.duration v).map fun x => { p with maxLifetime := x }
  | "test_before_acquire" => (Setting.truth v).map fun x => { p with testBeforeAcquire := x }
  | _ => .error { fault := .unknownMember name PoolOptions.names }

/-- The options of a pool. -/
def PoolOptions.decode : Setting → Except SettingFailure PoolOptions
  | .object members => Setting.setAll set {} (Setting.memberFields members)
  | .array items => Setting.setAll set {} (Setting.itemFields names items)
  | v => .error { fault := .wrongType v .pool }

/-- A configuration with one of its parts set. -/
def Configuration.set (c : Configuration) (name : String) (v : Setting) : Except SettingFailure Configuration :=
  match name with
  | "dsn" => (Setting.text v).map fun x => { c with dsn := x }
  | "pool" => (PoolOptions.decode v).map fun x => { c with pool := x }
  | _ => .error { fault := .unknownMember name names }

/-- The configuration that settings say. -/
def Configuration.decode (members : List (String × Setting)) : Except SettingFailure Configuration :=
  Setting.setAll set {} (Setting.memberFields members)

/-- The configuration of merged layers. The connection string must not be blank. -/
def Configuration.ofSettings (members : List (String × Setting)) : Except ConfigError Configuration :=
  match decode members with
  | .ok c => if (Text.trim c.dsn).isEmpty then .error .blankDsn else .ok c
  | .error f => .error (.settings [f])

/-- The members of a layer of settings, or why it has none. -/
abbrev Layer := Except SettingFailure (List (String × Setting))

/-- The layer of a value, which must be an object. -/
def Layer.ofJson (v : Json) : Layer :=
  match Setting.ofJson v with
  | .object members => .ok members
  | v => .error { fault := .wrongType v .members }

/-- What is wrong with layers, oldest first. -/
def Layer.failures (layers : List Layer) : List SettingFailure :=
  layers.filterMap fun
    | .ok _ => none
    | .error f => some f

/-- The failures that are reported when several layers fail: the oldest and the newest, in the order of their
wordings. -/
def Layer.reported : List SettingFailure → List SettingFailure
  | [] => []
  | f :: rest =>
    match rest.getLast? with
    | none => [f]
    | some l => if f.fault.message ≤ l.fault.message then [f, l] else [l, f]

/-- The members of layers, each merged over the ones before it. -/
def Layer.merged (layers : List Layer) : List (String × Setting) :=
  layers.foldl (fun old l => l.toOption.elim old (Setting.mergeMembers old)) []

/-- The configuration of layers, oldest first. -/
def Configuration.ofLayers (layers : List Layer) : Except ConfigError Configuration :=
  match Layer.failures layers with
  | [] => ofSettings (Layer.merged layers)
  | failures => .error (.settings (Layer.reported failures))

end CriteriaStore
