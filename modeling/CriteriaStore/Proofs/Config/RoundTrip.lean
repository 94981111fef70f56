import CriteriaStore.Config.Decoding
import CriteriaStore.Proofs.Config.Durations

/-!
# Configurations read back from their own settings

Options that are absent are left out when a configuration is written, and options that are left out keep the
defaults when one is read. So a configuration comes back with its absent options filled from the defaults
(`PoolOptions.filled`): the number of connections and the time to wait for one are present there, and cannot be
absent in what comes back; the other options can.

Members are read in the order of their names, which is not the order in which they are written
(`Setting.memberFields_filterMap`). One option that is read sets one field (`PoolOptions.set_setting?`), and
reading all of them is a fold over the names (`PoolOptions.setAll_settings`).
-/

namespace CriteriaStore

/-! ### Reading one value back -/

namespace Setting

theorem optional_count_ofJson (n : UInt32) : optional count (ofJson (PoolOptions.count n)) = .ok (some n) := by
  have hlt : n.toUInt64.toNat < UInt32.size := by
    rw [UInt32.toNat_toUInt64]
    exact n.toNat_lt
  have hread : count (ofJson (PoolOptions.count n)) = .ok n.toUInt64.toUInt32 := if_pos hlt
  rw [UInt32.toUInt32_toUInt64] at hread
  exact congrArg (Except.map some) hread

theorem optional_duration_ofJson (d : Duration) :
    optional duration (ofJson (PoolOptions.duration d)) = .ok (some d) := by
  have hread : duration (.string d.render) = .ok d := by rw [duration, Duration.read?_render]
  exact congrArg (Except.map some) hread

/-- A field that is set when its value is written, and left as it is otherwise. -/
theorem optional_elim {α β : Type} {read : Setting → Except SettingFailure α} {write : α → Setting}
    (hread : ∀ x, optional read (write x) = .ok (some x)) (value old : Option α) (set : Option α → β) :
    (value.map write).elim (.ok (set old)) (fun v => (optional read v).map set) = .ok (set (value <|> old)) := by
  cases value with
  | none => rfl
  | some x => exact congrArg (Except.map set) (hread x)

/-- Members that are written in any order are read in the order of their names. -/
theorem memberFields_filterMap {written sorted : List String} (hperm : written.Perm sorted)
    (hsorted : sorted.Pairwise (· ≤ ·)) (value? : String → Option Setting) :
    memberFields (written.filterMap fun k => (value? k).map (k, ·))
      = sorted.filterMap fun k => (value? k).map (⟨k, k, ·⟩) := by
  let le : String × Setting → String × Setting → Bool := fun a b => decide (a.1 ≤ b.1)
  let member : String → Option (String × Setting) := fun k => (value? k).map (k, ·)
  have hmember : ∀ k a, member k = some a → a.1 = k ∧ value? k = some a.2 := fun k a h => by
    obtain ⟨v, hv, rfl⟩ := Option.map_eq_some_iff.mp h
    exact ⟨rfl, hv⟩
  have hvalue : ∀ names : List String, ∀ a ∈ names.filterMap member, value? a.1 = some a.2 := fun names a ha => by
    obtain ⟨k, -, hk⟩ := List.mem_filterMap.mp ha
    obtain ⟨rfl, hv⟩ := hmember k a hk
    exact hv
  have hin : (sorted.filterMap member).Pairwise fun a b => le a b = true := by
    refine hsorted.filterMap member fun k k' hle a ha b hb => ?_
    rw [← (hmember k a ha).1, ← (hmember k' b hb).1] at hle
    exact decide_eq_true hle
  have hout : ((written.filterMap member).mergeSort le).Pairwise fun a b => le a b = true := by
    refine List.pairwise_mergeSort (fun a b c hab hbc => ?_) (fun a b => ?_) _
    · exact decide_eq_true (String.le_trans (of_decide_eq_true hab) (of_decide_eq_true hbc))
    · simpa [le] using String.le_total a.1 b.1
  have hsort : (written.filterMap member).mergeSort le = sorted.filterMap member := by
    have hsame := (List.mergeSort_perm (written.filterMap member) le).trans (hperm.filterMap member)
    refine List.Perm.eq_of_pairwise (fun a b ha hb hab hba => ?_) hout hin hsame
    have hkey := String.le_antisymm (of_decide_eq_true hab) (of_decide_eq_true hba)
    have ha := hvalue written a ((List.mergeSort_perm _ le).mem_iff.mp ha)
    have hb := hvalue sorted b hb
    rw [hkey, hb] at ha
    exact Prod.ext hkey (Option.some.inj ha).symm
  unfold memberFields
  rw [hsort, List.map_filterMap]
  refine congrArg (List.filterMap · sorted) (funext fun k => ?_)
  exact Option.map_map _ _ _

theorem setAll_cons {α : Type} {set : α → String → Setting → Except SettingFailure α} {a b : α} {f : Field}
    (h : set a f.name f.value = .ok b) (fields : List Field) : setAll set a (f :: fields) = setAll set b fields := by
  rw [setAll, List.foldlM_cons, h]
  rfl

end Setting

namespace PoolOptions

/-- What is written for an option, when it is present. -/
def setting? (p : PoolOptions) : String → Option Setting
  | "max_conns" => p.maxConns.map fun n => Setting.ofJson (count n)
  | "min_conns" => p.minConns.map fun n => Setting.ofJson (count n)
  | "acquire_timeout" => p.acquireTimeout.map fun d => Setting.ofJson (duration d)
  | "idle_timeout" => p.idleTimeout.map fun d => Setting.ofJson (duration d)
  | "max_lifetime" => p.maxLifetime.map fun d => Setting.ofJson (duration d)
  | "test_before_acquire" => some (.bool p.testBeforeAcquire)
  | _ => none

theorem ofMembers_append (l m : List (String × Json)) :
    Setting.ofMembers (l ++ m) = Setting.ofMembers l ++ Setting.ofMembers m := by
  induction l with
  | nil => rfl
  | cons a l ih => rw [List.cons_append, Setting.ofMembers, Setting.ofMembers, ih, List.cons_append]

theorem ofMembers_member {α : Type} (name : String) (write : α → Json) (v : Option α) :
    Setting.ofMembers (member name (v.map write))
      = ((v.map fun x => Setting.ofJson (write x)).map (name, ·)).toList := by
  cases v <;> rfl

theorem ofJson_toJson (p : PoolOptions) :
    Setting.ofJson p.toJson = .object (names.filterMap fun k => (p.setting? k).map (k, ·)) := by
  have hcons (k : String) (ks : List String) :
      (k :: ks).filterMap (fun k => (p.setting? k).map (k, ·))
        = ((p.setting? k).map (k, ·)).toList ++ ks.filterMap fun k => (p.setting? k).map (k, ·) := by
    rw [List.filterMap_cons]
    cases p.setting? k <;> rfl
  simp only [names, hcons, List.filterMap_nil]
  simp only [toJson, Setting.ofJson, ofMembers_append, ofMembers_member, setting?, List.append_assoc, List.append_nil]
  rfl

/-- Options with one of them taken from `p`, when `p` has it. -/
def take (p q : PoolOptions) : String → PoolOptions
  | "max_conns" => { q with maxConns := p.maxConns <|> q.maxConns }
  | "min_conns" => { q with minConns := p.minConns <|> q.minConns }
  | "acquire_timeout" => { q with acquireTimeout := p.acquireTimeout <|> q.acquireTimeout }
  | "idle_timeout" => { q with idleTimeout := p.idleTimeout <|> q.idleTimeout }
  | "max_lifetime" => { q with maxLifetime := p.maxLifetime <|> q.maxLifetime }
  | "test_before_acquire" => { q with testBeforeAcquire := p.testBeforeAcquire }
  | _ => q

/-- Reading an option back where it is written, and leaving it alone where it is not, takes it from `p`. -/
theorem set_setting? (p q : PoolOptions) {name : String} (h : name ∈ names) :
    (p.setting? name).elim (.ok q) (q.set name) = .ok (p.take q name) := by
  simp only [names, List.mem_cons, List.not_mem_nil, or_false] at h
  rcases h with rfl | rfl | rfl | rfl | rfl | rfl
  · exact Setting.optional_elim Setting.optional_count_ofJson p.maxConns q.maxConns
      fun x => { q with maxConns := x }
  · exact Setting.optional_elim Setting.optional_count_ofJson p.minConns q.minConns
      fun x => { q with minConns := x }
  · exact Setting.optional_elim Setting.optional_duration_ofJson p.acquireTimeout q.acquireTimeout
      fun x => { q with acquireTimeout := x }
  · exact Setting.optional_elim Setting.optional_duration_ofJson p.idleTimeout q.idleTimeout
      fun x => { q with idleTimeout := x }
  · exact Setting.optional_elim Setting.optional_duration_ofJson p.maxLifetime q.maxLifetime
      fun x => { q with maxLifetime := x }
  · rfl

/-- The options with those that are absent filled from the defaults. -/
def filled (p : PoolOptions) : PoolOptions :=
  let defaults : PoolOptions := {}
  { maxConns := p.maxConns <|> defaults.maxConns
    minConns := p.minConns <|> defaults.minConns
    acquireTimeout := p.acquireTimeout <|> defaults.acquireTimeout
    idleTimeout := p.idleTimeout <|> defaults.idleTimeout
    maxLifetime := p.maxLifetime <|> defaults.maxLifetime
    testBeforeAcquire := p.testBeforeAcquire }

/-- The names of the options in the order in which they are read. -/
def sortedNames : List String :=
  ["acquire_timeout", "idle_timeout", "max_conns", "max_lifetime", "min_conns", "test_before_acquire"]

theorem foldl_take (p : PoolOptions) : sortedNames.foldl p.take {} = p.filled := rfl

theorem setAll_settings (p q : PoolOptions) {read : List String} (h : ∀ k ∈ read, k ∈ names) :
    Setting.setAll set q (read.filterMap fun k => (p.setting? k).map (⟨k, k, ·⟩)) = .ok (read.foldl p.take q) := by
  induction read generalizing q with
  | nil => rfl
  | cons k read ih =>
    have hk := p.set_setting? q (h k List.mem_cons_self)
    have ih := ih (p.take q k) fun k' hk' => h k' (List.mem_cons_of_mem k hk')
    cases hv : p.setting? k with
    | none =>
      rw [hv] at hk
      rw [List.filterMap_cons_none (by rw [hv]; rfl), List.foldl_cons, ← ih, ← Except.ok.inj hk]
    | some v =>
      rw [hv] at hk
      have hset : q.set k v = .ok (p.take q k) := hk
      rw [List.filterMap_cons_some (by rw [hv]; rfl), List.foldl_cons, ← ih]
      exact Setting.setAll_cons hset _

theorem decode_toJson (p : PoolOptions) : decode (Setting.ofJson p.toJson) = .ok p.filled := by
  have hperm : names.Perm sortedNames := by decide
  have hsorted : sortedNames.Pairwise (· ≤ ·) := by decide
  have hknown : ∀ k ∈ sortedNames, k ∈ names := fun k hk => hperm.mem_iff.mpr hk
  rw [ofJson_toJson, decode, Setting.memberFields_filterMap hperm hsorted, p.setAll_settings {} hknown, foldl_take]

theorem filled_eq_iff (p : PoolOptions) :
    p.filled = p ↔ p.maxConns.isSome = true ∧ p.acquireTimeout.isSome = true := by
  obtain ⟨maxConns, minConns, acquireTimeout, idleTimeout, maxLifetime, testBeforeAcquire⟩ := p
  cases maxConns <;> cases acquireTimeout <;> simp [filled]

end PoolOptions

/-! ### Configurations -/

namespace Configuration

/-- A configuration reads back from its own settings with its absent options filled from the defaults. -/
theorem decode_settings (c : Configuration) :
    decode [("dsn", .string c.dsn), ("pool", Setting.ofJson c.pool.toJson)]
      = .ok { c with pool := c.pool.filled } := by
  have hfields : Setting.memberFields [("dsn", .string c.dsn), ("pool", Setting.ofJson c.pool.toJson)]
      = [⟨"dsn", "dsn", .string c.dsn⟩, ⟨"pool", "pool", Setting.ofJson c.pool.toJson⟩] := by
    rw [Setting.memberFields, List.mergeSort_of_pairwise (by simp)]
    rfl
  have hdsn : set {} "dsn" (.string c.dsn) = .ok { dsn := c.dsn } := rfl
  have hpool : set { dsn := c.dsn } "pool" (Setting.ofJson c.pool.toJson) = .ok { c with pool := c.pool.filled } :=
    congrArg (Except.map _) c.pool.decode_toJson
  rw [decode, hfields, Setting.setAll_cons hdsn, Setting.setAll_cons hpool]
  rfl

theorem ofLayers_settings (c : Configuration) :
    ofLayers [Layer.ofJson c.toJson]
      = if (Text.trim c.dsn).isEmpty then .error .blankDsn else .ok { c with pool := c.pool.filled } := by
  have hlayer : Layer.ofJson c.toJson = .ok [("dsn", .string c.dsn), ("pool", Setting.ofJson c.pool.toJson)] := rfl
  have hmerged : Layer.merged [.ok [("dsn", .string c.dsn), ("pool", Setting.ofJson c.pool.toJson)]]
      = [("dsn", .string c.dsn), ("pool", Setting.ofJson c.pool.toJson)] := by
    simp [Layer.merged, Except.toOption, Setting.mergeMembers, OrderedMap.lookup, OrderedMap.put]
  have hfailures : Layer.failures [.ok [("dsn", .string c.dsn), ("pool", Setting.ofJson c.pool.toJson)]] = [] := rfl
  rw [hlayer, ofLayers, hfailures]
  simp only [hmerged, ofSettings, decode_settings]

/-- A configuration whose connection string is not blank reads back from its own settings with its absent options
filled from the defaults. It survives, and its pool does, exactly when it says how many connections there may be
and how long to wait for one. -/
theorem reads_back_filled {c : Configuration} (hdsn : (Text.trim c.dsn).isEmpty = false) :
    ∃ d, ofLayers [Layer.ofJson c.toJson] = .ok d
      ∧ d.dsn = c.dsn
      ∧ d.pool = c.pool.filled
      ∧ (d = c ↔ c.pool.maxConns.isSome = true ∧ c.pool.acquireTimeout.isSome = true)
      ∧ (d.pool = c.pool ↔ c.pool.maxConns.isSome = true ∧ c.pool.acquireTimeout.isSome = true) := by
  have hread := ofLayers_settings c
  rw [hdsn] at hread
  have hpool := c.pool.filled_eq_iff
  have hwhole : ({ c with pool := c.pool.filled } : Configuration) = c ↔ c.pool.filled = c.pool := by
    constructor
    · intro h
      exact congrArg Configuration.pool h
    · intro h
      rw [h]
  exact ⟨_, hread, rfl, rfl, hwhole.trans hpool, hpool⟩

theorem reads_back_filled_of_idle :
    let pool : PoolOptions := { minConns := some 1, idleTimeout := some (.ofSeconds 90), testBeforeAcquire := true }
    let c : Configuration := { dsn := "sqlite://shop.db", pool }
    (Text.trim c.dsn).isEmpty = false ∧ ofLayers [Layer.ofJson c.toJson] = .ok c := by
  intro pool c
  have hdsn : (Text.trim c.dsn).isEmpty = false := by decide
  obtain ⟨d, hread, -, -, hsame, -⟩ := reads_back_filled hdsn
  obtain rfl : d = c := hsame.mpr ⟨rfl, rfl⟩
  exact ⟨hdsn, hread⟩

/-- Without a largest number of connections, what is read back is the default configuration. -/
theorem unlimited_reads_back_limited :
    let c : Configuration := { pool := { maxConns := none } }
    (Text.trim c.dsn).isEmpty = false ∧ ofLayers [Layer.ofJson c.toJson] = .ok {}
      ∧ ({} : Configuration) ≠ c ∧ ({} : Configuration).pool ≠ c.pool := by
  intro c
  have hdsn : (Text.trim c.dsn).isEmpty = false := by decide
  have hread := ofLayers_settings c
  rw [hdsn] at hread
  exact ⟨hdsn, hread, by decide, by decide⟩

end Configuration

end CriteriaStore
