import CriteriaStore.Proofs.Repository.Assigning
import CriteriaStore.Proofs.Repository.Selecting

/-!
# Addressing single records

A mapping addresses the records of its table one by one when its identity column tells them apart (`Addresses`), whatever
the column holds and whether or not it is the key. An identity then names no record or one.

An update has to find out whether there was a record, and storage may count the changed records only. So an update that
counts none asks a look-up (`Rows.gives_update_of_write`), also where the written columns are not constrained and the update
itself cannot fail (`Updatable.gives_update`).
-/

namespace CriteriaStore

open Storage (Connection Table Cell Database Record Schema)

variable {ε : Type}

/-! ### Named records -/

namespace Mapping

variable {m : Mapping ε} {t : Table} {r : Record} {id : Scalar}

/-- Whether a record is stored under an identity: the cell in its identity column is equal to it, as storage compares. -/
def Names (m : Mapping ε) (t : Table) (id : Scalar) (r : Record) : Prop :=
  (t.schema.cell r m.identity).compare .eq (t.schema.comparand m.identity (.bound id)) = .yes

instance (m : Mapping ε) (t : Table) (id : Scalar) (r : Record) : Decidable (m.Names t id r) :=
  inferInstanceAs (Decidable (_ = _))

/-- The condition that a record has an identity selects the records that are stored under it. -/
theorem selects_hasIdentity : Storage.selects t.schema (some (m.hasIdentity id)) r ↔ m.Names t id r := by
  unfold hasIdentity Names
  rw [Schema.selects_compare, Schema.comparand_ofScalar]

theorem selects_hasIdentity_eq_false :
    Storage.selects t.schema (some (m.hasIdentity id)) r = false ↔ ¬m.Names t id r := by
  rw [← selects_hasIdentity, Bool.not_eq_true]

/-- Neither does nothing name a record, nor does anything name a record with nothing in the column. -/
theorem Names.isNull (h : m.Names t id r) : id.isNull = false ∧ (t.schema.cell r m.identity).isNull = false := by
  unfold Names at h
  rw [Cell.compare_eq_yes] at h
  refine ⟨?_, h.1⟩
  cases id with
  | null =>
    -- no column type makes something of nothing
    have hcomparand : (t.schema.comparand m.identity (.bound .null)).isNull = true := by
      unfold Schema.comparand
      cases t.schema.column? m.identity with
      | none => rfl
      | some c =>
        show (c.type.comparand .null).isNull = true
        cases c.type <;> rfl
    rw [hcomparand] at h
    cases h.2.1
  | _ => rfl

/-- Nothing is selected by the identity nothing. -/
theorem matching_hasIdentity_of_isNull (h : id.isNull = true) : t.matching (some (m.hasIdentity id)) = [] := by
  refine Table.matching_eq_nil fun r _ => selects_hasIdentity_eq_false.2 fun hnames => ?_
  rw [hnames.isNull.1] at h
  cases h

theorem mem_matching_hasIdentity :
    r ∈ t.matching (some (m.hasIdentity id)) ↔ r ∈ t.records ∧ m.Names t id r := by
  unfold Table.matching
  rw [List.mem_filter, t.scan_perm.mem_iff, selects_hasIdentity]

/-- The table with a row written over the records that an identity names. -/
def updatedIn (m : Mapping ε) (t : Table) (id : Scalar) (row : Row) : Table :=
  t.changed (some (m.hasIdentity id)) (t.schema.assigns (Database.cells (m.assigned row false)))

/-- How many records an update reports; without a column to write there is no statement. -/
def countedIn (m : Mapping ε) (d : Database) (t : Table) (id : Scalar) (row : Row) : Nat :=
  if m.assigned row false = [] then 0
  else d.affectedBy t (some (m.hasIdentity id)) (t.schema.assigns (Database.cells (m.assigned row false)))

theorem exists_of_countedIn_pos {d : Database} {row : Row} (h : 0 < m.countedIn d t id row) :
    ∃ r ∈ t.records, m.Names t id r := by
  unfold countedIn at h
  split at h
  · exact absurd h (Nat.lt_irrefl 0)
  · obtain ⟨r, hr, hselected⟩ := Database.exists_of_affectedBy_pos h
    exact ⟨r, hr, selects_hasIdentity.1 hselected⟩

/-- Records with the same cell in the identity column are named alike. -/
theorem names_congr {t' : Table} {r' : Record} (hs : t'.schema = t.schema)
    (h : t.schema.cell r' m.identity = t.schema.cell r m.identity) : m.Names t' id r' ↔ m.Names t id r := by
  unfold Names
  rw [hs, h]

end Mapping

/-- There is a row with an identity when the first record that has it shows something. -/
theorem Readable.gives_exists_unless_empty {c : Connection} {m : Mapping ε} {t : Table} (h : Readable c m t) (id : Scalar) :
    (Rows.exists m id).Gives c
      (.ok ((t.matching (some (m.hasIdentity id))).head?.any fun r => !(t.schema.row t.schema.columnNames r).isEmpty))
      c := by
  cases hid : id.isNull with
  | true =>
    rw [Mapping.matching_hasIdentity_of_isNull hid]
    exact (Rows.gives_find_null hid).bind (Action.gives_pure _ _)
  | false =>
    have hproj : Sql.Projection.ofFields m.properties none = .ok .all := rfl
    have hexists : (Rows.exists m id).Gives c _ c :=
      (h.gives_find_unless_empty hid hproj).bind (Action.gives_pure _ c)
    cases hfirst : (t.matching (some (m.hasIdentity id))).head? with
    | none =>
      rw [hfirst] at hexists
      exact hexists
    | some r =>
      have hasked : t.schema.asked .all = t.schema.columnNames := rfl
      rw [hfirst, Option.map_some, Option.filter_some, hasked] at hexists
      cases hrow : (t.schema.row t.schema.columnNames r).isEmpty <;>
        simpa [hrow] using hexists

/-- There is a row with an identity when a record is named by it. -/
theorem Readable.gives_exists {c : Connection} {m : Mapping ε} {t : Table} (h : Readable c m t)
    (hshown : ∀ r ∈ t.records, (t.schema.row t.schema.columnNames r).isEmpty = false) (id : Scalar) :
    ∃ found, (Rows.exists m id).Gives c (.ok found) c ∧ (found ↔ ∃ r ∈ t.records, m.Names t id r) := by
  refine ⟨_, h.gives_exists_unless_empty id, ?_⟩
  rw [Option.any_eq_true]
  constructor
  · rintro ⟨r, hr, -⟩
    exact ⟨r, Mapping.mem_matching_hasIdentity.1 (List.mem_of_head? hr)⟩
  · intro hnamed
    obtain ⟨r, hr⟩ : ∃ r, (t.matching (some (m.hasIdentity id))).head? = some r := by
      obtain ⟨r, hr, hnames⟩ := hnamed
      have hmem := Mapping.mem_matching_hasIdentity.2 ⟨hr, hnames⟩
      exact ⟨_, List.head?_eq_some_head (List.ne_nil_of_mem hmem)⟩
    have hstored := (Mapping.mem_matching_hasIdentity.1 (List.mem_of_head? hr)).1
    exact ⟨r, hr, by rw [hshown r hstored]; rfl⟩

/-- What an update tells: that there was a record when one is counted, and otherwise what a look-up finds after it. -/
theorem Rows.gives_update_of_write {c c' : Connection} {m : Mapping ε} {id : Scalar} {row : Row} {n : Nat} {found : Bool}
    (hcomplete : m.lacking? row false = none)
    (hwrite : m.assigned row false ≠ [] →
      c.write (.update m.table (m.assigned row false) (some (m.hasIdentity id))) = (.ok n, c'))
    (hnothing : m.assigned row false = [] → n = 0 ∧ c' = c) (hfound : (Rows.exists m id).Gives c' (.ok found) c') :
    (Rows.update m id row).Gives c (.ok (if 0 < n ∨ found then .updated else .missing)) c' := by
  have hlook : (do if ← Rows.exists m id then return .updated else return .missing : Action UpdateOutcome).Gives c'
      (.ok (if found then .updated else .missing)) c' := by
    refine hfound.bind ?_
    cases found with
    | false => exact Action.gives_pure _ _
    | true => exact Action.gives_pure _ _
  obtain ⟨b, hassignments⟩ := Rows.assignments_eq_ok hcomplete {}
  unfold Rows.update
  rw [hassignments]
  refine (Action.gives_lift _ c).bind ?_
  by_cases hnone : m.assigned row false = []
  · obtain ⟨rfl, rfl⟩ := hnothing hnone
    simp only [hnone, Nat.lt_irrefl, false_or]
    exact (Action.gives_pure 0 c').bind hlook
  · have hempty : (m.assigned row false).isEmpty = false := by simpa using hnone
    simp only [hempty]
    refine (Action.gives_built _ _ _ _).bind ((Action.gives_write (hwrite hnone)).bind ?_)
    by_cases hpos : 0 < n
    · simp only [hpos, true_or, if_true]
      exact Action.gives_pure _ _
    · simp only [hpos, false_or, if_false]
      exact hlook

/-! ### Tables whose records are told apart -/

/-- A connection on which a mapping can read and write its table, whose records the identity column tells apart. -/
structure Addresses (c : Connection) (m : Mapping ε) (t : Table) : Prop extends Readable c m t where
  writable : c.database.writable m.table = .ok t
  named : c.database.Named
  apart : t.Distinguishes m.identity
  /-- Outside of transactions no reference is open. -/
  consistent : c.frames = [] → c.database.isConsistent

namespace Addresses

variable {c : Connection} {m : Mapping ε} {t t' : Table} {id : Scalar} {row : Row} {withIdentity : Bool}

theorem mem_tables (h : Addresses c m t) : t ∈ c.database.tables :=
  Database.mem_of_table? (Database.writable_eq_ok.1 h.writable).2

theorem replace_self (h : Addresses c m t) : c.replace t none = c := Connection.replace_self h.named h.mem_tables

theorem consistent_self (h : Addresses c m t) : c.frames = [] → (c.database.setTable t).isConsistent := by
  rw [Database.setTable_self h.named h.mem_tables]
  exact h.consistent

/-- An identity names no record or one. -/
theorem cases (h : Addresses c m t) (id : Scalar) :
    (∀ r ∈ t.records, Storage.selects t.schema (some (m.hasIdentity id)) r = false) ∨
      ∃ before r after, t.Singles (some (m.hasIdentity id)) before r after :=
  h.apart.cases (.ofScalar id)

theorem readable_replace (h : Addresses c m t) (hs : t'.schema = t.schema) (number : Option Int64) :
    Readable (c.replace t' number) m t' where
  readable := Database.readable_of_writable (Database.writable_setTable h.writable hs)
  noZero := h.noZero
  countable := hs ▸ h.countable

/-- The next state of the table is addressed when its records are told apart and no reference is open. -/
theorem replace (h : Addresses c m t) (hs : t'.schema = t.schema) (hapart : t'.Distinguishes m.identity)
    (hconsistent : c.frames = [] → (c.database.setTable t').isConsistent) (number : Option Int64) :
    Addresses (c.replace t' number) m t' where
  toReadable := h.readable_replace hs number
  writable := Database.writable_setTable h.writable hs
  named := h.named.setTable t'
  apart := hapart
  consistent := hconsistent

/-! ### Writes -/

theorem write_update (h : Addresses c m t) (hd : m.Declared t.schema)
    (hupdate : t.update (some (m.hasIdentity id)) (t.schema.assigns (Database.cells (m.assigned row false))) = .ok t')
    (hconsistent : c.frames = [] → (c.database.setTable t').isConsistent) :
    c.write (.update m.table (m.assigned row false) (some (m.hasIdentity id))) =
      (.ok (c.database.affectedBy t (some (m.hasIdentity id))
        (t.schema.assigns (Database.cells (m.assigned row false)))), c.replace t' none) := by
  have hnames : Database.checkNames
      (Sql.Write.update m.table (m.assigned row false) (some (m.hasIdentity id))).names = .ok () := by
    apply h.checkNames_eq_ok
    intro n hn
    have hcases : n = m.table ∨ n ∈ m.written false ∨ n = m.identity := by
      simpa [Sql.Write.names, Mapping.map_fst_assigned, Sql.conditionNames, Sql.Where.columns, Mapping.hasIdentity,
        Sql.Where.single, Sql.Predicate.column, -List.mem_map] using hn
    rcases hcases with rfl | hw | rfl
    · exact .inl rfl
    · exact .inr (.inr (Mapping.mem_written.1 hw).1)
    · exact .inr (.inl rfl)
  apply Connection.write_eq_ok
  · exact Database.write_update hnames h.writable (Table.resolve_eq_ok hd.schema (hd.cells_mapped row false)) hupdate
  · exact hconsistent

private theorem checkNames_insert (h : Addresses c m t) (row : Row) (withIdentity : Bool) :
    Database.checkNames (Sql.Write.insert m.table (m.assigned row withIdentity)).names = .ok () := by
  apply h.checkNames_eq_ok
  intro n hn
  have hcases : n = m.table ∨ n ∈ m.written withIdentity := by
    simpa [Sql.Write.names, Mapping.map_fst_assigned, -List.mem_map] using hn
  exact hcases.imp_right fun hw => .inr (Mapping.mem_written.1 hw).1

theorem write_insert (h : Addresses c m t) (hd : m.Declared t.schema) {r : Record}
    (hinsert : t.insert (t.schema.assigns (Database.cells (m.assigned row withIdentity))) = .ok (t', r))
    (hconsistent : c.frames = [] → (c.database.setTable t').isConsistent) :
    c.write (.insert m.table (m.assigned row withIdentity)) = (.ok 1, c.replace t' (t.numberOf? r)) := by
  apply Connection.write_eq_ok
  · exact Database.write_insert (h.checkNames_insert row withIdentity) h.writable
      (Table.resolve_eq_ok hd.schema (hd.cells_mapped row withIdentity)) hinsert
  · exact hconsistent

/-- An insertion that the table refuses changes nothing, unless the error ends a transaction. -/
theorem write_insert_error (h : Addresses c m t) (hd : m.Declared t.schema) {e : Storage.StorageError}
    (hinsert : t.insert (t.schema.assigns (Database.cells (m.assigned row withIdentity))) = .error e)
    (he : e.rollsBack = false) : c.write (.insert m.table (m.assigned row withIdentity)) = (.error e, c) := by
  unfold Connection.write
  rw [Database.write_insert_error (h.checkNames_insert row withIdentity) h.writable
    (Table.resolve_eq_ok hd.schema (hd.cells_mapped row withIdentity)) hinsert]
  simp only [he]
  rfl

/-- Nothing is written over when no record has the identity. -/
theorem gives_update_missing (h : Addresses c m t) (hd : m.Declared t.schema)
    (hcomplete : m.lacking? row false = none) (hnone : ∀ r ∈ t.records, ¬m.Names t id r) :
    (Rows.update m id row).Gives c (.ok .missing) c := by
  have hunselected : ∀ r ∈ t.records, Storage.selects t.schema (some (m.hasIdentity id)) r = false :=
    fun r hr => Mapping.selects_hasIdentity_eq_false.2 (hnone r hr)
  have hupdate : t.update (some (m.hasIdentity id)) (t.schema.assigns (Database.cells (m.assigned row false))) = .ok t :=
    Table.update_eq_self hunselected _
  have hwrite := h.write_update hd hupdate h.consistent_self
  have hcounted : c.database.affectedBy t (some (m.hasIdentity id))
      (t.schema.assigns (Database.cells (m.assigned row false))) = 0 := by
    refine Nat.eq_zero_of_not_pos fun hpos => ?_
    obtain ⟨r, hr, hselected⟩ := Database.exists_of_affectedBy_pos hpos
    exact hnone r hr (Mapping.selects_hasIdentity.1 hselected)
  rw [h.replace_self, hcounted] at hwrite
  have hfound := h.gives_exists_unless_empty id
  rw [Table.matching_eq_nil hunselected] at hfound
  simpa using Rows.gives_update_of_write hcomplete (fun _ => hwrite) (fun _ => ⟨rfl, rfl⟩) hfound

end Addresses

/-! ### Updates -/

/-- A connection on which a mapping addresses a table and may update it: what its records hold satisfies the declaration, and
the columns to write are not constrained. -/
structure Updatable (c : Connection) (m : Mapping ε) (t : Table) : Prop extends Addresses c m t, m.Declared t.schema where
  identified : m.identity ∈ t.schema.columnNames
  sound : t.Sound
  unconstrained : ∀ d ∈ t.schema.columns, d.name ∈ m.properties.columns → d.name ≠ m.identity →
    ¬t.schema.Guards d.name ∧ d.references = none

namespace Updatable

variable {c : Connection} {m : Mapping ε} {t : Table} {id : Scalar} {row : Row}

private theorem spares (h : Updatable c m t) {column : String}
    (hcolumn : t.schema.Guards column ∨ column = m.identity ∨
      ∃ d ∈ t.schema.columns, d.name = column ∧ d.references ≠ none) :
    ∀ a ∈ t.schema.assigns (Database.cells (m.assigned row false)), a.1.name ≠ column := by
  rintro a ha rfl
  obtain ⟨hdeclared, hwritten, -⟩ := h.mem_assigns.1 ha
  obtain ⟨hmapped, hne⟩ := Mapping.mem_written.1 hwritten
  have hne' : a.1.name ≠ m.identity := by simpa using hne
  obtain ⟨hfree, hreferences⟩ := h.unconstrained a.1 hdeclared hmapped hne'
  rcases hcolumn with hguards | hidentity | ⟨d, hd, hname, hrefers⟩
  · exact hfree hguards
  · exact hne' hidentity
  · have hsame := h.schema.column?_name hd
    rw [hname, h.schema.column?_name hdeclared] at hsame
    exact hrefers (Option.some.inj hsame ▸ hreferences)

private theorem isConsistent_updatedIn (h : Updatable c m t) (id : Scalar) (row : Row) (hframes : c.frames = []) :
    (c.database.setTable (m.updatedIn t id row)).isConsistent := by
  refine Database.isConsistent_setTable h.named h.mem_tables rfl ?_ ?_ (h.consistent hframes)
  -- neither a column that refers to other records is written nor the key, which others refer to
  · intro r' hr' d hd hrefers
    obtain ⟨r, hr, hsame⟩ := Table.exists_of_mem_changed hr'
    exact ⟨r, hr, hsame d.name (h.spares (.inr (.inr ⟨d, hd, rfl, hrefers⟩)))⟩
  · intro r hr _
    obtain ⟨r', hr', hsame⟩ := Table.exists_mem_changed _ _ hr
    exact ⟨r', hr', hsame _ (h.spares (.inl (.inl rfl)))⟩

/-- An update leaves the one record that it changes under its identity, and the others as they are. -/
theorem singles_updatedIn (h : Updatable c m t) {before after : List Record} {r : Record}
    (hsingles : t.Singles (some (m.hasIdentity id)) before r after) (row : Row) :
    (m.updatedIn t id row).Singles (some (m.hasIdentity id)) before
      (Table.assign (t.schema.assigns (Database.cells (m.assigned row false))) r) after where
  records := congrArg Table.records (hsingles.changed _)
  selected := by
    refine Mapping.selects_hasIdentity.2 ((Mapping.names_congr (t := t) rfl ?_).2
      (Mapping.selects_hasIdentity.1 hsingles.selected))
    rw [h.schema.cell_of_mem h.identified, h.schema.cell_of_mem h.identified]
    exact Table.cell_assign (h.spares (.inr (.inl rfl))) r
  others := hsingles.others

/-- An update writes over the records that the identity names, and tells whether it counted one or a look-up finds one
afterwards. -/
theorem gives_update (h : Updatable c m t) (hcomplete : m.lacking? row false = none) {found : Bool}
    (hfound : (Rows.exists m id).Gives (c.replace (m.updatedIn t id row) none) (.ok found)
      (c.replace (m.updatedIn t id row) none)) :
    (Rows.update m id row).Gives c (.ok (if 0 < m.countedIn c.database t id row ∨ found then .updated else .missing))
      (c.replace (m.updatedIn t id row) none) := by
  have hupdate : t.update (some (m.hasIdentity id)) (t.schema.assigns (Database.cells (m.assigned row false))) =
      .ok (m.updatedIn t id row) :=
    h.sound.update_eq _ fun a ha hguards => h.spares (.inl hguards) a ha rfl
  have hwrite := h.write_update h.toDeclared hupdate (h.isConsistent_updatedIn id row)
  refine Rows.gives_update_of_write hcomplete (fun hsome => ?_) (fun hnothing => ⟨?_, ?_⟩) hfound
  · unfold Mapping.countedIn
    rwa [if_neg hsome]
  · unfold Mapping.countedIn
    rw [if_pos hnothing]
  · have hsame : m.updatedIn t id row = t := by
      unfold Mapping.updatedIn
      rw [hnothing]
      exact Table.changed_nil t _
    rw [hsame, h.replace_self]

end Updatable

end CriteriaStore
