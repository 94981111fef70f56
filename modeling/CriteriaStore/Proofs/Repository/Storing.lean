import CriteriaStore.Proofs.Repository.Assigning

/-!
# Storing rows in a keyed table

A row is stored under its identity: over the record that has it, or as a new record (`Mapping.store`). Storing makes
one identity stored and keeps the others (`has_store`), and where a stored record is written does not depend on what
was stored under another identity before (`store_comm`). So the rows of a batch whose identities are stored may be
written first (`foldl_store_filter`).
-/

namespace CriteriaStore.Mapping

open Storage (Table ColumnType Cell Database Record Schema)

variable {ε : Type}

/-- A table that is keyed by the identity column of a mapping and has all of its columns. -/
structure Fits (m : Mapping ε) (t : Table) (type : ColumnType) : Prop where
  keyed : t.Keyed m.identity type
  mapped : ∀ column ∈ m.properties.columns, column ∈ t.schema.columnNames
  identified : m.identity ∈ m.properties.columns

/-- A declaration that is keyed by the identity column of a mapping and has all of its columns. -/
structure Suits (m : Mapping ε) (s : Schema) (type : ColumnType) : Prop extends m.Declared s where
  keyed : s.KeyedBy m.identity type
  identified : m.identity ∈ m.properties.columns

/-- A row with a value for every column of a mapping, under an identity of the type of the identity column. -/
structure Carries (m : Mapping ε) (type : ColumnType) (e : Scalar × Row) : Prop where
  owned : type.Owns e.1
  complete : m.Completes e.2
  identified : e.2.get? m.identity = some e.1

/-- The table with a row written over the record with an identity. -/
def overwriteIn (m : Mapping ε) (t : Table) (e : Scalar × Row) : Table :=
  t.overwrite e.1 (t.schema.assigns (Database.cells (m.assigned e.2 false)))

/-- The record that a new row becomes. -/
def recordIn (m : Mapping ε) (t : Table) (row : Row) : Record :=
  t.recordOf (t.schema.assigns (Database.cells (m.assigned row true)))

/-- Store a row under its identity in a table. The number of the record that was added last comes along. -/
def store (m : Mapping ε) (s : Table × Option Int64) (e : Scalar × Row) : Table × Option Int64 :=
  if s.1.has e.1 then (m.overwriteIn s.1 e, s.2)
  else (s.1.appended (m.recordIn s.1 e.2), (s.1.numberOf? (m.recordIn s.1 e.2)).or s.2)

theorem schema_store (m : Mapping ε) (s : Table × Option Int64) (e : Scalar × Row) :
    (m.store s e).1.schema = s.1.schema := by
  unfold store
  split <;> rfl

theorem schema_foldl_store (m : Mapping ε) (s : Table × Option Int64) (batch : List (Scalar × Row)) :
    (batch.foldl m.store s).1.schema = s.1.schema := by
  induction batch generalizing s with
  | nil => rfl
  | cons e rest ih => rw [List.foldl_cons, ih, schema_store]

theorem Suits.cell_recordIn {m : Mapping ε} {t : Table} {type : ColumnType} {e : Scalar × Row}
    (h : m.Suits t.schema type) (he : m.Carries type e) :
    Record.cell (m.recordIn t e.2) m.identity = Cell.ofScalar e.1 := by
  obtain ⟨c, hc, -, hname, htype⟩ := h.keyed.exists_column
  have hmem : (c, Cell.ofScalar e.1) ∈ t.schema.assigns (Database.cells (m.assigned e.2 true)) := by
    refine h.mem_assigns.2 ⟨hc, mem_written.2 ⟨?_, .inl rfl⟩, ?_⟩
    · rw [hname]
      exact h.identified
    · rw [hname, he.identified]
      rfl
  have hcell := Table.cell_recordOf_of_mem h.schema hc hmem fun b hb hb' => h.assigns_unique hmem hb hb'
  rw [hname, htype, he.owned.store] at hcell
  exact hcell

namespace Fits

variable {m : Mapping ε} {t : Table} {type : ColumnType} {e : Scalar × Row}

/-! ### One row -/

theorem suits (h : m.Fits t type) : m.Suits t.schema type where
  schema := h.keyed.schema.toWellFormed
  mapped := h.mapped
  keyed := h.keyed.schema
  identified := h.identified

theorem overwriteIn (h : m.Fits t type) (e : Scalar × Row) : m.Fits (m.overwriteIn t e) type where
  keyed := h.keyed.overwrite (h.suits.keeps_identity e.2)
  mapped := h.mapped
  identified := h.identified

theorem has_overwriteIn (h : m.Fits t type) (e : Scalar × Row) {id : Scalar} (hid : type.Owns id) :
    (m.overwriteIn t e).has id = t.has id := h.keyed.has_overwrite (h.suits.keeps_identity e.2) hid

/-- A record with a new identity may be added. -/
theorem appended (h : m.Fits t type) {id : Scalar} (hid : type.Owns id) {r : Record}
    (hr : Record.cell r m.identity = Cell.ofScalar id) (hnew : t.has id = false) : m.Fits (t.appended r) type where
  keyed := h.keyed.appended hid hr hnew
  mapped := h.mapped
  identified := h.identified

variable {s : Table × Option Int64}

theorem store (h : m.Fits s.1 type) (he : m.Carries type e) : m.Fits (m.store s e).1 type := by
  unfold Mapping.store
  split
  · exact h.overwriteIn e
  · rename_i hnew
    exact h.appended he.owned (h.suits.cell_recordIn he) (by simpa using hnew)

/-- Storing a row makes its identity stored, and no other one. -/
theorem has_store (h : m.Fits s.1 type) (he : m.Carries type e) {id : Scalar} (hid : type.Owns id) :
    (m.store s e).1.has id ↔ s.1.has id ∨ id = e.1 := by
  unfold Mapping.store
  split
  · rename_i hhas
    rw [h.has_overwriteIn e hid]
    constructor
    · exact .inl
    · rintro (hid | rfl)
      · exact hid
      · exact hhas
  · rename_i hnew
    exact h.keyed.has_appended he.owned (h.suits.cell_recordIn he) (by simpa using hnew) hid

/-! ### Batches -/

variable {a b : Scalar × Row} {batch : List (Scalar × Row)}

/-- A stored record may be written before a row of another identity is stored as well as after it. -/
theorem store_comm (h : m.Fits s.1 type) (ha : m.Carries type a) (hb : m.Carries type b) (hne : a.1 ≠ b.1)
    (hhas : s.1.has b.1) : m.store (m.store s a) b = m.store (m.store s b) a := by
  -- the record of `b` is there both times, since `a` has another identity
  have hafter : (m.store s a).1.has b.1 := (h.has_store ha hb.owned).2 (.inl hhas)
  have hkept : (m.store s b).1.has a.1 = s.1.has a.1 := by
    rw [Bool.eq_iff_iff, h.has_store hb ha.owned]
    simp [hne]
  by_cases hstored : s.1.has a.1
  · rw [hstored] at hkept
    simp only [Mapping.store, hhas, hstored, if_true] at hafter hkept ⊢
    simp only [hafter, hkept, if_true]
    congr 1
    exact h.keyed.overwrite_overwrite ha.owned hb.owned hne (h.suits.keeps_identity a.2) (h.suits.keeps_identity b.2)
  · rw [Bool.not_eq_true] at hstored
    rw [hstored] at hkept
    simp only [Mapping.store, hhas, hstored, if_true, Bool.false_eq_true, if_false] at hafter hkept ⊢
    simp only [hafter, hkept, if_true, Bool.false_eq_true, if_false]
    congr 1
    exact h.keyed.overwrite_appended ha.owned hb.owned hne (h.suits.cell_recordIn ha) _

/-- After a batch its identities are stored, and those that were stored before. -/
theorem has_foldl_store (h : m.Fits s.1 type) (hbatch : ∀ e ∈ batch, m.Carries type e) {id : Scalar}
    (hid : type.Owns id) : (batch.foldl m.store s).1.has id ↔ s.1.has id ∨ id ∈ batch.map Prod.fst := by
  induction batch generalizing s with
  | nil => simp
  | cons e rest ih =>
    have he := hbatch e List.mem_cons_self
    rw [List.foldl_cons, ih (h.store he) fun e he => hbatch e (List.mem_cons_of_mem _ he), h.has_store he hid,
      List.map_cons, List.mem_cons, or_assoc]

theorem length_store (m : Mapping ε) (s : Table × Option Int64) (e : Scalar × Row) :
    (m.store s e).1.records.length = s.1.records.length + if s.1.has e.1 then 0 else 1 := by
  unfold Mapping.store
  cases s.1.has e.1 <;> simp [Mapping.overwriteIn, Table.overwrite, Table.appended]

/-- Rows of other identities are as new after a row is stored as they were before. -/
private theorem filter_new_store (h : m.Fits s.1 type) (ha : m.Carries type a) (hbatch : ∀ e ∈ batch, m.Carries type e)
    (hother : s.1.has a.1 = false → a.1 ∉ (batch.filter fun e => !s.1.has e.1).map Prod.fst) :
    (batch.filter fun e => !(m.store s a).1.has e.1) = batch.filter fun e => !s.1.has e.1 := by
  refine List.filter_congr fun e he => ?_
  have hiff := h.has_store ha (hbatch e he).owned
  cases hhas : s.1.has e.1 with
  | true => rw [hiff.2 (.inl hhas)]
  | false =>
    rw [Bool.not_inj_iff, ← Bool.not_eq_true, hiff, hhas]
    rintro (hfalse | heq)
    · exact Bool.false_ne_true hfalse
    · have hmem : e ∈ batch.filter fun e => !s.1.has e.1 := List.mem_filter.2 ⟨he, by simp [hhas]⟩
      exact hother (heq ▸ hhas) (heq ▸ List.mem_map_of_mem hmem)

/-- A batch adds one record for each new identity, when these are different. -/
theorem length_foldl_store (h : m.Fits s.1 type) (hbatch : ∀ e ∈ batch, m.Carries type e)
    (hnodup : ((batch.filter fun e => !s.1.has e.1).map Prod.fst).Nodup) :
    (batch.foldl m.store s).1.records.length =
      s.1.records.length + (batch.filter fun e => !s.1.has e.1).length := by
  induction batch generalizing s with
  | nil => rfl
  | cons e rest ih =>
    have he := hbatch e List.mem_cons_self
    have hrest : ∀ e ∈ rest, m.Carries type e := fun e he => hbatch e (List.mem_cons_of_mem _ he)
    cases hhas : s.1.has e.1 with
    | true =>
      simp only [List.filter_cons, hhas, Bool.not_true, Bool.false_eq_true, if_false] at hnodup ⊢
      have hsame := h.filter_new_store he hrest fun hnew => absurd (hhas.symm.trans hnew) (by simp)
      rw [List.foldl_cons, ih (h.store he) hrest (by rwa [hsame]), hsame, length_store, hhas]
      rfl
    | false =>
      simp only [List.filter_cons, hhas, Bool.not_false, if_true, List.map_cons, List.nodup_cons] at hnodup ⊢
      have hsame := h.filter_new_store he hrest fun _ => hnodup.1
      rw [List.foldl_cons, ih (h.store he) hrest (by rw [hsame]; exact hnodup.2), hsame, length_store, hhas,
        List.length_cons]
      show s.1.records.length + 1 + _ = s.1.records.length + (_ + 1)
      omega

/-- A row of another identity may be stored after stored records are written as well as before. -/
private theorem foldl_store_store (h : m.Fits s.1 type) (ha : m.Carries type a)
    (hbatch : ∀ e ∈ batch, m.Carries type e) (hne : a.1 ∉ batch.map Prod.fst) (hhas : ∀ e ∈ batch, s.1.has e.1) :
    batch.foldl m.store (m.store s a) = m.store (batch.foldl m.store s) a := by
  induction batch generalizing s with
  | nil => rfl
  | cons e rest ih =>
    have he := hbatch e List.mem_cons_self
    rw [List.map_cons, List.mem_cons, not_or] at hne
    rw [List.foldl_cons, List.foldl_cons, h.store_comm ha he hne.1 (hhas e List.mem_cons_self)]
    refine ih (h.store he) (fun e he => hbatch e (List.mem_cons_of_mem _ he)) hne.2 fun e' he' => ?_
    have hcarries := hbatch e' (List.mem_cons_of_mem _ he')
    exact (h.has_store he hcarries.owned).2 (.inl (hhas e' (List.mem_cons_of_mem _ he')))

/-- The rows of a batch whose identities are stored may be written first, in their order. -/
theorem foldl_store_filter (h : m.Fits s.1 type) (hbatch : ∀ e ∈ batch, m.Carries type e) {p : Scalar → Bool}
    (hp : ∀ e ∈ batch, p e.1 → s.1.has e.1) :
    (batch.filter (fun e => p e.1) ++ batch.filter fun e => !p e.1).foldl m.store s = batch.foldl m.store s := by
  induction batch generalizing s with
  | nil => rfl
  | cons e rest ih =>
    have he := hbatch e List.mem_cons_self
    have hrest : ∀ e ∈ rest, m.Carries type e := fun e he => hbatch e (List.mem_cons_of_mem _ he)
    have hnext : ∀ e' ∈ rest, p e'.1 → (m.store s e).1.has e'.1 := fun e' he' hpe =>
      (h.has_store he (hrest e' he').owned).2 (.inl (hp e' (List.mem_cons_of_mem _ he') hpe))
    rw [List.foldl_cons, ← ih (h.store he) hrest hnext]
    by_cases hpe : p e.1
    · simp only [List.filter_cons, hpe, Bool.not_true, if_true, Bool.false_eq_true, if_false]
      rfl
    · simp only [List.filter_cons, hpe, Bool.not_false, if_true, Bool.false_eq_true, if_false, List.foldl_append,
        List.foldl_cons]
      -- the new row passes the stored ones that come after it
      congr 1
      symm
      apply h.foldl_store_store he
      · exact fun e' he' => hrest e' ((List.mem_filter.1 he').1)
      · intro hmem
        obtain ⟨e', he', heq⟩ := List.mem_map.1 hmem
        exact hpe (heq ▸ (List.mem_filter.1 he').2)
      · intro e' he'
        rw [List.mem_filter] at he'
        exact hp e' (List.mem_cons_of_mem _ he'.1) he'.2

end Fits

end CriteriaStore.Mapping
