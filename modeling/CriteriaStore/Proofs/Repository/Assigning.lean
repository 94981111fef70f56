import CriteriaStore.Proofs.Storage.Writing
import CriteriaStore.Repository.Writing
import CriteriaStore.Storage.Database

/-!
# Assignments of a row

A row assigns its values to the columns of a mapping, with or without the identity column. The one thing that can go
wrong is a column the row has no value for (`Mapping.lacking?`); the first such column is the one that is reported.
-/

namespace CriteriaStore

variable {ε : Type}

namespace Mapping

/-- The columns of a mapping that a row is written to. -/
def written (m : Mapping ε) (withIdentity : Bool) : List String :=
  m.properties.columns.filter fun column => withIdentity || column ≠ m.identity

/-- The first of the written columns that a row has no value for. -/
def lacking? (m : Mapping ε) (row : Row) (withIdentity : Bool) : Option String :=
  (m.written withIdentity).find? fun column => (row.get? column).isNone

/-- The values that a row assigns to the written columns. -/
def assigned (m : Mapping ε) (row : Row) (withIdentity : Bool) : List (String × Sql.Term) :=
  (m.written withIdentity).map fun column => (column, .ofScalar ((row.get? column).getD .null))

/-- Whether a row has a value for every column of a mapping. -/
def Completes (m : Mapping ε) (row : Row) : Prop := ∀ column ∈ m.properties.columns, (row.get? column).isSome

variable {m : Mapping ε} {row : Row} {withIdentity : Bool}

theorem mem_written {column : String} :
    column ∈ m.written withIdentity ↔ column ∈ m.properties.columns ∧ (withIdentity ∨ column ≠ m.identity) := by
  simp [written]

theorem Completes.lacking? (h : m.Completes row) (withIdentity : Bool) : m.lacking? row withIdentity = none := by
  unfold Mapping.lacking?
  rw [List.find?_eq_none]
  intro column hc
  have hsome := h column (mem_written.1 hc).1
  rw [Option.isNone_iff_eq_none, ← ne_eq, ← Option.isSome_iff_ne_none]
  exact hsome

theorem map_fst_assigned : (m.assigned row withIdentity).map Prod.fst = m.written withIdentity := by
  unfold assigned
  rw [List.map_map]
  exact List.map_id _

theorem cells_ofScalar (names : List String) (value : String → Scalar) :
    Storage.Database.cells (names.map fun name => (name, .ofScalar (value name))) =
      names.map fun name => (name, Storage.Cell.ofScalar (value name)) := by
  unfold Storage.Database.cells
  rw [List.map_map]
  refine List.map_congr_left fun name _ => ?_
  rw [Function.comp_apply]
  cases value name <;> rfl

/-- The cells that are written hold the values of the row. -/
theorem mem_cells_assigned {name : String} {v : Storage.Cell} :
    (name, v) ∈ Storage.Database.cells (m.assigned row withIdentity) ↔
      name ∈ m.written withIdentity ∧ v = Storage.Cell.ofScalar ((row.get? name).getD .null) := by
  unfold assigned
  rw [cells_ofScalar (m.written withIdentity) fun column => (row.get? column).getD .null, List.mem_map]
  constructor
  · rintro ⟨column, hc, he⟩
    obtain ⟨rfl, rfl⟩ := Prod.mk.inj he
    exact ⟨hc, rfl⟩
  · rintro ⟨hc, rfl⟩
    exact ⟨name, hc, rfl⟩

/-- Whether every column of a mapping is a column of a declaration. -/
structure Declared (m : Mapping ε) (s : Storage.Schema) : Prop where
  schema : s.WellFormed
  mapped : ∀ column ∈ m.properties.columns, column ∈ s.columnNames

namespace Declared

open Storage (Column Cell Database)

variable {s : Storage.Schema}

theorem cells_mapped (h : m.Declared s) (row : Row) (withIdentity : Bool) :
    ∀ a ∈ Database.cells (m.assigned row withIdentity), a.1 ∈ s.columnNames := by
  rintro ⟨name, v⟩ ha
  exact h.mapped _ (mem_written.1 (mem_cells_assigned.1 ha).1).1

theorem mem_assigns (h : m.Declared s) {a : Column × Cell} :
    a ∈ s.assigns (Database.cells (m.assigned row withIdentity)) ↔
      a.1 ∈ s.columns ∧ a.1.name ∈ m.written withIdentity ∧
        a.2 = Cell.ofScalar ((row.get? a.1.name).getD .null) := by
  rw [h.schema.mem_assigns (h.cells_mapped row withIdentity), mem_cells_assigned]

/-- A column is assigned one value. -/
theorem assigns_unique (h : m.Declared s) {a b : Column × Cell}
    (ha : a ∈ s.assigns (Database.cells (m.assigned row withIdentity)))
    (hb : b ∈ s.assigns (Database.cells (m.assigned row withIdentity))) (hname : b.1.name = a.1.name) : b = a := by
  obtain ⟨hca, -, hva⟩ := h.mem_assigns.1 ha
  obtain ⟨hcb, -, hvb⟩ := h.mem_assigns.1 hb
  have hcolumn : b.1 = a.1 := by
    have hfound := h.schema.column?_name hcb
    rw [hname, h.schema.column?_name hca] at hfound
    exact (Option.some.inj hfound).symm
  refine Prod.ext hcolumn ?_
  rw [hva, hvb, hname]

/-- What a row assigns to a mapped column. -/
theorem assigns_value (h : m.Declared s) (withIdentity : Bool) {d : Column} (hd : d ∈ s.columns)
    (hmapped : d.name ∈ m.properties.columns) (hne : d.name ≠ m.identity) {v : Scalar} (hv : row.get? d.name = some v) :
    (d, Cell.ofScalar v) ∈ s.assigns (Database.cells (m.assigned row withIdentity)) := by
  refine h.mem_assigns.2 ⟨hd, mem_written.2 ⟨hmapped, .inr hne⟩, ?_⟩
  rw [hv]
  rfl

theorem assigns_unmapped (h : m.Declared s) {column : String} (hc : column ∉ m.properties.columns) :
    ∀ a ∈ s.assigns (Database.cells (m.assigned row withIdentity)), a.1.name ≠ column := by
  rintro a ha rfl
  exact hc (mem_written.1 (h.mem_assigns.1 ha).2.1).1

/-- A stored record is written to outside of the identity column. -/
theorem keeps_identity (h : m.Declared s) (row : Row) :
    ∀ a ∈ s.assigns (Database.cells (m.assigned row false)), a.1.name ≠ m.identity := by
  intro a ha
  have hwritten := mem_written.1 (h.mem_assigns.1 ha).2.1
  simpa using hwritten.2

end Declared

end Mapping

namespace Rows

variable {m : Mapping ε} {row : Row} {withIdentity : Bool}

/-- How the assignments go on after the columns so far. -/
private theorem assignments_eq (m : Mapping ε) (row : Row) (withIdentity : Bool) (columns : List String)
    (b : Bindings) :
    let names := columns.filter fun column => withIdentity || column ≠ m.identity
    match names.find? fun column => (row.get? column).isNone with
    | some column => assignments m row withIdentity columns b = .error (.missingColumnValue m.table column)
    | none => ∃ b', assignments m row withIdentity columns b =
        .ok (names.map fun column => (column, .ofScalar ((row.get? column).getD .null)), b') := by
  induction columns generalizing b with
  | nil => exact ⟨b, rfl⟩
  | cons column rest ih =>
    by_cases hskip : column = m.identity ∧ withIdentity = false
    · obtain ⟨rfl, rfl⟩ := hskip
      have hnext := ih b
      simp only [assignments, Bool.false_or, Bool.not_false, decide_true, Bool.and_self, if_true, ne_eq,
        not_true_eq_false, decide_false, Bool.false_eq_true, not_false_eq_true, List.filter_cons_of_neg] at hnext ⊢
      exact hnext
    · have hkeep : (withIdentity || decide (column ≠ m.identity)) = true := by
        cases withIdentity <;> simp_all
      have hwrite : (decide (column = m.identity) && !withIdentity) = false := by
        cases withIdentity <;> simp_all
      simp only [List.filter_cons, hkeep, if_true, assignments, hwrite, Bool.false_eq_true, if_false]
      cases hv : row.get? column with
      | none => simp [hv]
      | some v =>
        have hnext := ih (b.recordTerm .must (.ofScalar v))
        simp only [List.find?_cons, hv, Option.isNone_some] at hnext ⊢
        split at hnext
        · rename_i missing hfind
          simp only [hfind, hnext]
        · rename_i hfind
          obtain ⟨b', hrest⟩ := hnext
          simp only [hfind, hrest]
          exact ⟨b', by simp [hv]⟩

theorem assignments_eq_ok (h : m.lacking? row withIdentity = none) (b : Bindings) :
    ∃ b', assignments m row withIdentity m.properties.columns b = .ok (m.assigned row withIdentity, b') := by
  have hcases := assignments_eq m row withIdentity m.properties.columns b
  unfold Mapping.lacking? Mapping.written at h
  simp only [h] at hcases
  exact hcases

theorem assignments_eq_error {column : String} (h : m.lacking? row withIdentity = some column) (b : Bindings) :
    assignments m row withIdentity m.properties.columns b = .error (.missingColumnValue m.table column) := by
  have hcases := assignments_eq m row withIdentity m.properties.columns b
  unfold Mapping.lacking? Mapping.written at h
  simp only [h] at hcases
  exact hcases

end Rows

end CriteriaStore
