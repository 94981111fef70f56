import CriteriaStore.Proofs.Repository.Addressing
import CriteriaStore.Proofs.Repository.Storing

/-!
# Single rows of a connection

How the statements of a repository act on a connection that holds the keyed table of its mapping (`Serves`). Looking
up an identity finds the row of the stored record (`gives_find`), an update overwrites that record or reports it
missing (`gives_update`), and an insertion under an identity that is not stored appends a record (`gives_insert`).
-/

namespace CriteriaStore

open Storage (Connection Table ColumnType Cell Database Record)

variable {ε : Type}

/-- Inserting a row under its own identity comes down to one write. -/
theorem Rows.gives_insert_of_write {c c' : Connection} {m : Mapping ε} {type : ColumnType}
    {e : Scalar × Row} (hgen : m.generatesIdentity = false) (he : m.Carries type e)
    {result : Except RepositoryError Nat}
    (hwrite : (Action.write (.insert m.table (m.assigned e.2 true))).Gives c result c') :
    (Rows.insert m e.2).Gives c (result.map fun _ => e.1) c' := by
  have hid : Rows.assignedIdentity m e.2 = e.1 := by
    unfold Rows.assignedIdentity
    rw [hgen, he.identified]
    rfl
  obtain ⟨b, hassigned⟩ := Rows.assignments_eq_ok (he.complete.lacking? true) {}
  unfold Rows.insert
  simp only [hid, he.owned.isNull, Bool.not_false, hassigned]
  refine (Action.gives_lift _ c).bind ((Action.gives_built _ _ _ _).bind ?_)
  cases result with
  | ok n => exact hwrite.bind (Action.gives_pure _ _)
  | error err => exact hwrite.bind_error

/-- A connection on which a mapping finds its table. -/
structure Serves (c : Connection) (m : Mapping ε) (t : Table) (type : ColumnType) : Prop extends m.Fits t type where
  writable : c.database.writable m.table = .ok t
  named : c.database.Named
  noZero : m.table.contains '\x00' = false
  /-- Outside of transactions no reference is open. -/
  consistent : c.frames = [] → c.database.isConsistent

namespace Serves

variable {c : Connection} {m : Mapping ε} {t t' : Table} {type : ColumnType} {id : Scalar}

theorem mem_tables (h : Serves c m t type) : t ∈ c.database.tables :=
  Database.mem_of_table? (Database.writable_eq_ok.1 h.writable).2

theorem noZero_of_mem (h : Serves c m t type) {column : String} (hc : column ∈ t.schema.columnNames) :
    column.contains '\x00' = false := by
  obtain ⟨d, hd, rfl⟩ := List.mem_map.1 hc
  exact h.keyed.schema.noZero d hd

theorem replace_self (h : Serves c m t type) : c.replace t none = c := Connection.replace_self h.named h.mem_tables

theorem replaced_self (h : Serves c m t type) : Serves (c.replace t none) m t type := by
  rw [h.replace_self]
  exact h

/-- References stay satisfied when every stored identity is kept. -/
theorem isConsistent_replace (h : Serves c m t type) (hs : t'.schema = t.schema) (hk : t'.Keyed m.identity type)
    (hkeep : ∀ id, type.Owns id → t.has id → t'.has id) (hf : c.frames = []) :
    (c.database.setTable t').isConsistent := by
  refine Database.isConsistent_setTable h.named h.mem_tables hs ?_ ?_ (h.consistent hf)
  · exact fun _ _ c hc hrefers => absurd (h.keyed.schema.free c hc) hrefers
  intro r hr _
  obtain ⟨id, hid, he⟩ := h.keyed.records.owned r hr
  have hhas := hkeep id hid ((h.keyed.has_iff hid).2 ⟨r, hr, he⟩)
  obtain ⟨r', hr', he'⟩ := (hk.has_iff hid).1 hhas
  rw [h.keyed.schema.key]
  exact ⟨r', hr', he'.trans he.symm⟩

/-- The next state of the table serves the mapping as well. -/
theorem replace (h : Serves c m t type) (hs : t'.schema = t.schema) (hf : m.Fits t' type)
    (hkeep : ∀ id, type.Owns id → t.has id → t'.has id) (number : Option Int64) :
    Serves (c.replace t' number) m t' type where
  toFits := hf
  writable := Database.writable_setTable h.writable hs
  named := h.named.setTable t'
  noZero := h.noZero
  consistent := h.isConsistent_replace hs hf.keyed hkeep

/-! ### Looking up -/

/-- What a mapping finds its table on, it can read. -/
theorem readable (h : Serves c m t type) : Readable c m t where
  readable := Database.readable_of_writable h.writable
  noZero := by
    intro name hname
    rw [List.mem_cons, List.mem_cons] at hname
    rcases hname with rfl | rfl | hc
    · exact h.noZero
    · exact h.noZero_of_mem (h.mapped _ h.identified)
    · exact h.noZero_of_mem (h.mapped _ hc)
  countable := by
    intro column hc _
    obtain ⟨d, hd, rfl⟩ := List.mem_map.1 (h.mapped _ hc)
    rw [h.keyed.schema.column?_name hd]
    rfl

theorem addresses (h : Serves c m t type) : Addresses c m t where
  toReadable := h.readable
  writable := h.writable
  named := h.named
  apart := h.keyed.distinguishes
  consistent := h.consistent

theorem updatable (h : Serves c m t type) : Updatable c m t where
  toAddresses := h.addresses
  toDeclared := h.suits.toDeclared
  identified := h.keyed.schema.identity_mem
  sound := h.keyed.sound
  unconstrained d hd _ hne := by
    refine ⟨fun hguards => hne (h.keyed.schema.eq_of_guards hguards), h.keyed.schema.free d hd⟩

theorem gives_find (h : Serves c m t type) (hid : type.Owns id) :
    (Rows.find m id none).Gives c (.ok (t.storedRow? id)) c := by
  have hshown : ∀ r ∈ t.records, (t.schema.row t.schema.columnNames r).isEmpty = false := by
    intro r hr
    obtain ⟨own, hown, he⟩ := h.keyed.records.owned r hr
    exact h.keyed.schema.isEmpty_row hown he
  have hfirst : (t.matching (some (m.hasIdentity id))).head? = t.stored? id := by
    unfold Mapping.hasIdentity
    rw [h.keyed.matching_identity hid, Option.head?_toList]
  have hfind := h.readable.gives_find hid.isNull hshown
  rwa [hfirst] at hfind

theorem gives_exists (h : Serves c m t type) (hid : type.Owns id) :
    (Rows.exists m id).Gives c (.ok (t.has id)) c := by
  refine (h.gives_find hid).bind ?_
  have hhas : (t.storedRow? id).isSome = t.has id := by
    unfold Table.storedRow? Table.has
    rw [Option.isSome_map]
  rw [hhas]
  exact Action.gives_pure _ _

/-- What was written is read back as it is stored. -/
theorem gives_reread (h : Serves c m t type) (hid : type.Owns id) (hhas : t.has id) :
    ∃ row, t.storedRow? id = some row ∧ (Rows.reread m id).Gives c (.ok row) c := by
  obtain ⟨r, hr⟩ := Option.isSome_iff_exists.1 hhas
  have hrow : t.storedRow? id = some (t.schema.row t.schema.columnNames r) := by
    rw [Table.storedRow?, hr, Option.map_some]
  refine ⟨_, hrow, (h.gives_find hid).bind ?_⟩
  rw [hrow]
  exact Action.gives_pure _ _

/-! ### Writing -/

theorem overwritten (h : Serves c m t type) (e : Scalar × Row) :
    Serves (c.replace (m.overwriteIn t e) none) m (m.overwriteIn t e) type :=
  h.replace (show (m.overwriteIn t e).schema = t.schema from rfl) (h.toFits.overwriteIn e)
    (fun _ hid hhas => by rw [h.has_overwriteIn e hid, hhas]) none

/-- Whether anything is written or counted or not, an update tells whether there is a record. -/
theorem gives_update (h : Serves c m t type) (hid : type.Owns id) {row : Row} (hrow : m.Completes row) :
    (Rows.update m id row).Gives c (.ok (if t.has id then .updated else .missing))
      (c.replace (m.overwriteIn t (id, row)) none) := by
  have hsame : m.updatedIn t id row = m.overwriteIn t (id, row) := (h.keyed.overwrite_eq_changed hid _).symm
  have hfound := (h.overwritten (id, row)).gives_exists hid
  rw [h.has_overwriteIn (id, row) hid, ← hsame] at hfound
  have hgives := h.updatable.gives_update (hrow.lacking? false) hfound
  have hcounted : 0 < m.countedIn c.database t id row → t.has id := by
    intro hpos
    obtain ⟨r, hr, hnames⟩ := Mapping.exists_of_countedIn_pos hpos
    exact (Table.has_iff_exists_selects h.keyed.schema hid).2 ⟨r, hr, Mapping.selects_hasIdentity.2 hnames⟩
  simp only [or_iff_right_of_imp hcounted, hsame] at hgives
  exact hgives

/-- A record with a new identity may be added. -/
theorem appended (h : Serves c m t type) (hid : type.Owns id) {r : Record}
    (hr : Record.cell r m.identity = Cell.ofScalar id) (hnew : t.has id = false) (number : Option Int64) :
    Serves (c.replace (t.appended r) number) m (t.appended r) type :=
  h.replace (t.appended_schema r) (h.toFits.appended hid hr hnew)
    (fun _ hid' hhas => (h.keyed.has_appended hid hr hnew hid').2 (.inl hhas)) number

/-- An insertion that the table accepts takes effect. -/
theorem write_insert (h : Serves c m t type) (hid : type.Owns id) {r : Record}
    (hr : Record.cell r m.identity = Cell.ofScalar id) (hnew : t.has id = false) {row : Row} {withIdentity : Bool}
    (hinsert : t.insert (t.schema.assigns (Database.cells (m.assigned row withIdentity))) = .ok (t.appended r, r)) :
    c.write (.insert m.table (m.assigned row withIdentity)) =
      (.ok 1, c.replace (t.appended r) (t.numberOf? r)) :=
  h.addresses.write_insert h.suits.toDeclared hinsert (h.appended hid hr hnew none).consistent

variable {e : Scalar × Row}

/-- A row with an identity that is not stored becomes a new record. -/
theorem gives_insert (h : Serves c m t type) (hgen : m.generatesIdentity = false) (he : m.Carries type e)
    (hnew : t.has e.1 = false) :
    (Rows.insert m e.2).Gives c (.ok e.1)
      (c.replace (t.appended (m.recordIn t e.2)) (t.numberOf? (m.recordIn t e.2))) := by
  have hr := h.suits.cell_recordIn he
  have hwrite := h.write_insert he.owned hr hnew (Table.insert_eq h.keyed.schema he.owned hr hnew)
  exact Rows.gives_insert_of_write hgen he (Action.gives_write hwrite)

/-- A row with an identity that is stored is refused, and nothing is written. -/
theorem gives_insert_of_has (h : Serves c m t type) (hgen : m.generatesIdentity = false) (he : m.Carries type e)
    (hhas : t.has e.1) :
    (Rows.insert m e.2).Gives c (.error (.storage .execution (.duplicateKey t.schema.name m.identity))) c := by
  have hinsert := h.keyed.insert_eq_duplicateKey he.owned (h.suits.cell_recordIn he) hhas
  have hwrite := h.addresses.write_insert_error h.suits.toDeclared hinsert rfl
  have hresult := Action.gives_write_result (.insert m.table (m.assigned e.2 true)) c
  rw [hwrite] at hresult
  exact Rows.gives_insert_of_write hgen he hresult

end Serves

end CriteriaStore
