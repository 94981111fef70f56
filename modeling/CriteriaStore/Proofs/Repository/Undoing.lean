import CriteriaStore.Proofs.Repository.Erasing
import CriteriaStore.Proofs.Repository.Upserting

/-!
# Removing single records

A removal drops the one record that an identity names, or nothing (`Addresses.erase_undoes_put`). Every other identity finds
what it found before, and the removed one finds nothing. So a record that was just added is gone again after its removal, and
the table holds what it held.

Storage refuses to remove a record that another one refers to, where no transaction is open.
-/

namespace CriteriaStore

open Storage (Connection Table ColumnType Cell Database Record)

variable {ε : Type}

namespace Addresses

variable {c : Connection} {m : Mapping ε} {t : Table} {id : Scalar}

/-! ### Removals -/

private theorem deleted (h : Addresses c m t)
    (hconsistent : c.frames = [] → (c.database.setTable (t.delete (some (m.hasIdentity id)))).isConsistent) :
    Addresses (c.replace (t.delete (some (m.hasIdentity id))) none) m (t.delete (some (m.hasIdentity id))) := by
  have hschema : (t.delete (some (m.hasIdentity id))).schema = t.schema := rfl
  have hapart : (t.delete (some (m.hasIdentity id))).Distinguishes m.identity := h.apart.sublist List.filter_sublist
  exact h.replace hschema hapart hconsistent none

/-- A record under a new identity may be added. -/
private theorem appended (h : Addresses c m t) {type : ColumnType} (hs : m.Suits t.schema type) (hid : type.Owns id)
    {r : Record} (hr : Record.cell r m.identity = Cell.ofScalar id)
    (hnew : ∀ o ∈ t.records, Storage.selects t.schema (some (m.hasIdentity id)) o = false) (number : Option Int64) :
    Addresses (c.replace (t.appended r) number) m (t.appended r) := by
  refine h.replace (t.appended_schema r) ?_ (fun hframes => ?_) number
  · refine List.pairwise_append.2 ⟨h.apart, List.pairwise_singleton _ _, fun o ho r' hr' => ?_⟩
    rw [List.mem_singleton.1 hr']
    intro hyes
    -- a record with the same cell would be selected by the new identity
    have hselected := hs.keyed.selects_identity hid o
    rw [t.appended_schema, hs.keyed.cell_identity, hs.keyed.cell_identity, hr, Cell.compare_eq_yes] at hyes
    rw [hyes.2.2] at hselected
    exact Bool.false_ne_true ((hnew o ho).symm.trans hselected)
  · refine Database.isConsistent_setTable h.named h.mem_tables (t.appended_schema r) ?_ ?_ (h.consistent hframes)
    · exact fun _ _ d hd hrefers => absurd (hs.keyed.free d hd) hrefers
    · exact fun o ho _ => ⟨o, List.mem_append_left _ ho, rfl⟩

end Addresses

end CriteriaStore
