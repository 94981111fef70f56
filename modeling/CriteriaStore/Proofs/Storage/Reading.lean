import CriteriaStore.Proofs.Storage.Writing
import Mathlib.Data.List.Nodup
import Mathlib.Data.List.Perm.Basic

/-!
# Reading keyed tables

A plain selection, unsorted and with repeats, gives the matching records in the order of the key (`rows_of_plain`). The
row of a record has, under the name of a declared column, the scalar that is read from the cell (`get?_row`); under
the identity column of a keyed table that is always the identity (`get?_row_identity`).
-/

namespace CriteriaStore.Storage

/-! ### Rows -/

namespace Schema

variable {s : Schema} {identity : String} {type : ColumnType}

/-- The entry of a row for a name. -/
def entry? (s : Schema) (r : Record) (name : String) : Option (String × Scalar) :=
  match s.column? name with
  | some c => (c.type.read? (Record.cell r c.name)).map fun v => (c.name, v)
  | none => some (Sql.Dialect.sqlite.name name, .text name)

theorem WellFormed.entry?_name (hs : s.WellFormed) {c : Column} (hc : c ∈ s.columns) (r : Record) :
    s.entry? r c.name = (c.type.read? (Record.cell r c.name)).map fun v => (c.name, v) := by
  unfold entry?
  rw [hs.column?_name hc]

private theorem key_of_entry? (hs : s.WellFormed) {r : Record} {name : String} (hname : name ∈ s.columnNames)
    {e : String × Scalar} (he : s.entry? r name = some e) : e.1 = name := by
  obtain ⟨c, hc, rfl⟩ := List.mem_map.1 hname
  rw [hs.entry?_name hc, Option.map_eq_some_iff] at he
  obtain ⟨v, -, rfl⟩ := he
  rfl

private theorem keys_entries_sublist (hs : s.WellFormed) {names : List String}
    (hnames : ∀ n ∈ names, n ∈ s.columnNames) (r : Record) :
    ((names.filterMap (s.entry? r)).map Prod.fst).Sublist names := by
  induction names with
  | nil => simp
  | cons name rest ih =>
    have hrest := ih fun n hn => hnames n (List.mem_cons_of_mem _ hn)
    cases he : s.entry? r name with
    | none =>
      rw [List.filterMap_cons_none he]
      exact hrest.cons _
    | some e =>
      rw [List.filterMap_cons_some he, List.map_cons, key_of_entry? hs (hnames name List.mem_cons_self) he]
      exact hrest.cons_cons _

private theorem entries_row (hs : s.WellFormed) {names : List String} (hnames : ∀ n ∈ names, n ∈ s.columnNames)
    (hnodup : names.Nodup) (r : Record) : (s.row names r).entries = names.filterMap (s.entry? r) :=
  OrderedMap.entries_ofList (hnodup.sublist (keys_entries_sublist hs hnames r))

/-- Under the name of an asked column a row has what is read from the cell. -/
theorem WellFormed.get?_row (hs : s.WellFormed) {names : List String} (hnames : ∀ n ∈ names, n ∈ s.columnNames)
    (hnodup : names.Nodup) {c : Column} (hc : c ∈ s.columns) (hn : c.name ∈ names) (r : Record) :
    (s.row names r).get? c.name = c.type.read? (Record.cell r c.name) := by
  cases hread : c.type.read? (Record.cell r c.name) with
  | some v =>
    rw [OrderedMap.get?_eq_some_iff, entries_row hs hnames hnodup, List.mem_filterMap]
    exact ⟨c.name, hn, by rw [hs.entry?_name hc, hread]; rfl⟩
  | none =>
    rw [Option.eq_none_iff_forall_ne_some]
    intro v hv
    rw [OrderedMap.get?_eq_some_iff, entries_row hs hnames hnodup, List.mem_filterMap] at hv
    obtain ⟨name, hmem, he⟩ := hv
    obtain rfl : c.name = name := key_of_entry? hs (hnames name hmem) he
    rw [hs.entry?_name hc, hread] at he
    exact absurd he (by simp)

/-- A row has no columns but the asked ones, and of these the ones that the row of all columns has. -/
theorem WellFormed.keys_row (hs : s.WellFormed) {names : List String} (hnames : ∀ n ∈ names, n ∈ s.columnNames)
    (hnodup : names.Nodup) (r : Record) : (s.row names r).keys = names.filter (s.row s.columnNames r).contains := by
  have hshown : ∀ n ∈ names, (s.row s.columnNames r).contains n = (s.entry? r n).isSome := by
    intro n hn
    obtain ⟨c, hc, rfl⟩ := List.mem_map.1 (hnames n hn)
    unfold OrderedMap.contains
    rw [hs.get?_row (fun _ h => h) hs.nodup_columnNames hc (hnames _ hn), hs.entry?_name hc, Option.isSome_map]
  have hkeys : ∀ names : List String, (∀ n ∈ names, n ∈ s.columnNames) →
      (names.filterMap (s.entry? r)).map Prod.fst = names.filter fun n => (s.entry? r n).isSome := by
    intro names hnames
    induction names with
    | nil => rfl
    | cons name rest ih =>
      have hrest := ih fun n hn => hnames n (List.mem_cons_of_mem _ hn)
      cases he : s.entry? r name with
      | none => rw [List.filterMap_cons_none he, List.filter_cons_of_neg (by simp [he]), hrest]
      | some e =>
        have hkey := key_of_entry? hs (hnames name List.mem_cons_self) he
        rw [List.filterMap_cons_some he, List.filter_cons_of_pos (by simp [he]), List.map_cons, hkey, hrest]
  unfold OrderedMap.keys
  rw [entries_row hs hnames hnodup, hkeys names hnames]
  exact List.filter_congr fun n hn => (hshown n hn).symm

/-- Under an asked column a row has what the row of all columns has. -/
theorem WellFormed.get?_row_of_mem (hs : s.WellFormed) {names : List String} (hnames : ∀ n ∈ names, n ∈ s.columnNames)
    (hnodup : names.Nodup) {n : String} (hn : n ∈ names) (r : Record) :
    (s.row names r).get? n = (s.row s.columnNames r).get? n := by
  obtain ⟨c, hc, rfl⟩ := List.mem_map.1 (hnames n hn)
  rw [hs.get?_row hnames hnodup hc hn, hs.get?_row (fun _ h => h) hs.nodup_columnNames hc (hnames _ hn)]

/-- The row of a record with an identity has it under the identity column. -/
theorem KeyedBy.get?_row_identity (hs : s.KeyedBy identity type) {names : List String}
    (hnames : ∀ n ∈ names, n ∈ s.columnNames) (hnodup : names.Nodup) (hn : identity ∈ names) {r : Record} {id : Scalar}
    (hid : type.Owns id) (hr : Record.cell r identity = Cell.ofScalar id) :
    (s.row names r).get? identity = some id := by
  obtain ⟨c, hc, -, rfl, rfl⟩ := hs.exists_column
  rw [hs.get?_row hnames hnodup hc hn, hr, hid.read?]

theorem KeyedBy.identity_mem (hs : s.KeyedBy identity type) : identity ∈ s.columnNames := by
  obtain ⟨c, hc, -, rfl, -⟩ := hs.exists_column
  exact List.mem_map_of_mem hc

/-- The row of all columns shows every cell that is read. -/
theorem WellFormed.isEmpty_row (hs : s.WellFormed) {c : Column} (hc : c ∈ s.columns) {r : Record}
    (hread : (c.type.read? (Record.cell r c.name)).isSome) : (s.row s.columnNames r).isEmpty = false := by
  obtain ⟨v, hv⟩ := Option.isSome_iff_exists.1 hread
  refine OrderedMap.isEmpty_of_get? (?_ : OrderedMap.get? _ c.name = some v)
  rw [hs.get?_row (fun _ h => h) hs.nodup_columnNames hc (List.mem_map_of_mem hc), hv]

/-- The row of a record with an identity is not without columns. -/
theorem KeyedBy.isEmpty_row (hs : s.KeyedBy identity type) {r : Record} {id : Scalar} (hid : type.Owns id)
    (hr : Record.cell r identity = Cell.ofScalar id) : (s.row s.columnNames r).isEmpty = false := by
  obtain ⟨c, hc, -, rfl, rfl⟩ := hs.exists_column
  refine hs.toWellFormed.isEmpty_row hc ?_
  rw [hr, hid.read?]
  rfl

end Schema

/-! ### Selections -/

theorem mem_of_mem_stretch {α : Type} {offset limit : Option UInt64} {l : List α} {a : α} (h : a ∈ stretch offset limit l) :
    a ∈ l := by
  unfold stretch at h
  cases limit with
  | none => exact List.mem_of_mem_drop h
  | some n => exact List.mem_of_mem_drop (List.mem_of_mem_take h)

namespace Table

variable {t : Table} {identity : String} {type : ColumnType}

private theorem mergeSort_unordered (s : Schema) (l : List Record) : l.mergeSort (s.inOrder []) = l := by
  apply List.mergeSort_of_pairwise
  exact List.pairwise_of_forall fun _ _ => rfl

/-- What is selected without a sort order is in the order of the key. -/
theorem ordered_of_unsorted (t : Table) {q : Sql.Select} (horder : q.order = []) :
    t.ordered q = if isDistinct q.projection then
      firsts (t.schema.agree (t.schema.asked q.projection)) (t.matching q.condition) else t.matching q.condition := by
  unfold ordered
  rw [horder]
  exact mergeSort_unordered t.schema _

/-- An unsorted selection with repeats cuts its stretch from the matching records. -/
theorem rows_of_plain (t : Table) {q : Sql.Select} (horder : q.order = []) (hp : isDistinct q.projection = false) :
    t.rows q = (stretch q.offset q.limit (t.matching q.condition)).map
      (t.schema.row (t.schema.asked q.projection)) := by
  unfold rows
  rw [t.ordered_of_unsorted horder, hp]
  rfl

/-- Which records are selected, and in which order, does not depend on the columns that are asked for. -/
theorem ordered_columns {q : Sql.Select} (hp : isDistinct q.projection = false) (names : List String) :
    t.ordered { q with projection := .columns names } = t.ordered q := by
  unfold ordered
  rw [hp]
  rfl

theorem count_eq (t : Table) (column : String) (condition : Option Sql.Where) :
    t.count column condition =
      ((t.records.filter (selects t.schema condition)).filter fun r => !(t.schema.cell r column).isNull).length :=
  ((t.scan_perm.filter _).filter _).length_eq

theorem Keyed.matching_identities (h : t.Keyed identity type) {ids : List Scalar} (hids : ∀ id ∈ ids, type.Owns id) :
    ∀ r, r ∈ t.matching (some (.single (.isIn identity false (ids.map .ofScalar)))) ↔
      r ∈ t.records ∧ ∃ id ∈ ids, Record.cell r identity = Cell.ofScalar id := by
  intro r
  unfold matching
  rw [List.mem_filter, t.scan_perm.mem_iff]
  refine and_congr_right fun hr => ?_
  rw [h.schema.selects_identities hids (h.records.isNull hr)]
  exact exists_congr fun id => and_congr_right fun hid => h.records.same_iff hr (hids id hid)

/-- Selecting by different stored identities gives one record for each of them. -/
theorem Keyed.matching_perm (h : t.Keyed identity type) {ids : List Scalar} (hids : ∀ id ∈ ids, type.Owns id)
    (hnodup : ids.Nodup) (hhas : ∀ id ∈ ids, t.has id) :
    ((t.matching (some (.single (.isIn identity false (ids.map .ofScalar))))).map some).Perm
      (ids.map t.stored?) := by
  have hrecords : t.records.Nodup := List.Nodup.of_map _ h.records.nodup
  have hmatching : (t.matching (some (.single (.isIn identity false (ids.map .ofScalar))))).Nodup :=
    (t.scan_perm.nodup_iff.2 hrecords).filter _
  have hstored : (ids.map t.stored?).Nodup := by
    refine hnodup.map_on fun a ha b hb he => ?_
    obtain ⟨r, hr⟩ := Option.isSome_iff_exists.1 (hhas a ha)
    have hra := (h.cell_of_stored? (hids a ha) hr).2
    have hrb := (h.cell_of_stored? (hids b hb) (he ▸ hr)).2
    rw [hra] at hrb
    exact ((hids a ha).ofScalar_inj (hids b hb)).1 hrb
  -- neither side repeats anything, so the members decide
  rw [List.perm_ext_iff_of_nodup (hmatching.map fun _ _ => Option.some.inj) hstored]
  intro o
  rw [List.mem_map, List.mem_map]
  constructor
  · rintro ⟨r, hr, rfl⟩
    obtain ⟨hmem, id, hid, he⟩ := (h.matching_identities hids r).1 hr
    obtain ⟨r', hr'⟩ := Option.isSome_iff_exists.1 (hhas id hid)
    obtain ⟨hmem', he'⟩ := h.cell_of_stored? (hids id hid) hr'
    refine ⟨id, hid, ?_⟩
    rw [hr', List.inj_on_of_nodup_map h.records.nodup hmem' hmem (he'.trans he.symm)]
  · rintro ⟨id, hid, rfl⟩
    obtain ⟨r, hr⟩ := Option.isSome_iff_exists.1 (hhas id hid)
    obtain ⟨hmem, he⟩ := h.cell_of_stored? (hids id hid) hr
    exact ⟨r, (h.matching_identities hids r).2 ⟨hmem, id, hid, he⟩, hr.symm⟩

end Table

end CriteriaStore.Storage
