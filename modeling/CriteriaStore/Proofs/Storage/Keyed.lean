import CriteriaStore.Proofs.Storage.Identity
import CriteriaStore.Storage.Query

/-!
# Tables known by an identity

A table is keyed by an identity column when that column is its key and nothing else is constrained: every record has
an identity of the type of the column, and no two records have the same one (`Table.Keyed`).

* At most one record has an identity, so selecting by identity finds the stored record or none
  (`matching_identity`).
* A record beside others with other identities violates nothing (`violation?_eq_none`).
-/

namespace CriteriaStore

/-! ### Columns by name -/

namespace Storage.Schema

/-- A declaration with different column names, none of which ends the text of a statement. -/
structure WellFormed (s : Schema) : Prop where
  distinct : s.columns.Pairwise fun a b => ¬sameName a.name b.name
  noZero : ∀ c ∈ s.columns, c.name.contains '\x00' = false

/-- The identity column is the key, and no other column is constrained. -/
structure KeyedBy (s : Schema) (identity : String) (type : ColumnType) : Prop extends s.WellFormed where
  key : s.key = identity
  declared : ∃ c ∈ s.columns, c.name = identity ∧ c.type = type
  /-- Records are numbered by integers only. -/
  numbered : s.keyKind ≠ .natural → type = .integer
  unconstrained : ∀ c ∈ s.columns, c.name ≠ identity → c.required = false ∧ c.unique = none
  free : ∀ c ∈ s.columns, c.references = none

variable {s : Schema} {identity : String} {type : ColumnType}

theorem sameName_refl (a : String) : sameName a a := by simp [sameName]

theorem noZero_of_notMem {name : String} (h : '\x00' ∉ name.toList) : name.contains '\x00' = false := by
  rw [String.contains_char_eq]
  exact decide_eq_false h

theorem WellFormed.column?_name (hs : s.WellFormed) {c : Column} (hc : c ∈ s.columns) :
    s.column? c.name = some c := by
  have hfind (columns : List Column) (h : columns.Pairwise fun a b => ¬sameName a.name b.name) (hc : c ∈ columns) :
      (columns.find? fun d => sameName d.name c.name) = some c := by
    induction columns with
    | nil => simp at hc
    | cons d rest ih =>
      rw [List.pairwise_cons] at h
      rcases List.mem_cons.1 hc with rfl | hc
      · simp [sameName_refl]
      · have hd : ¬sameName d.name c.name := h.1 c hc
        rw [List.find?_cons_of_neg (by simpa using hd)]
        exact ih h.2 hc
  unfold column?
  rw [hfind s.columns hs.distinct hc]

theorem WellFormed.cell_of_mem (hs : s.WellFormed) {name : String} (h : name ∈ s.columnNames) (r : Record) :
    s.cell r name = Record.cell r name := by
  obtain ⟨c, hc, rfl⟩ := List.mem_map.1 h
  unfold cell
  rw [hs.column?_name hc]

theorem WellFormed.nodup_columnNames (hs : s.WellFormed) : s.columnNames.Nodup := by
  unfold columnNames List.Nodup
  rw [List.pairwise_map]
  refine hs.distinct.imp fun h he => h ?_
  rw [he]
  exact sameName_refl _

theorem KeyedBy.exists_column (hs : s.KeyedBy identity type) :
    ∃ c ∈ s.columns, s.column? identity = some c ∧ c.name = identity ∧ c.type = type := by
  obtain ⟨c, hc, rfl, htype⟩ := hs.declared
  exact ⟨c, hc, hs.column?_name hc, rfl, htype⟩

theorem KeyedBy.cell_identity (hs : s.KeyedBy identity type) (r : Record) :
    s.cell r identity = Record.cell r identity := by
  obtain ⟨c, -, hfind, hname, -⟩ := hs.exists_column
  simp [cell, hfind, hname]

theorem KeyedBy.comparand_identity (hs : s.KeyedBy identity type) {id : Scalar} (hid : type.Owns id) :
    s.comparand identity (.ofScalar id) = Cell.ofScalar id := by
  obtain ⟨c, -, hfind, -, htype⟩ := hs.exists_column
  rw [hid.term]
  simp [comparand, hfind, htype, hid.comparand]

/-! ### Selecting by identity -/

theorem holds_single (r : Record) (p : Sql.Predicate) :
    holds s r (.single p) = holdsPredicate s r p := by
  show (Truth.all [holdsPredicate s r p]).or (Truth.any []) = holdsPredicate s r p
  cases holdsPredicate s r p <;> rfl

/-- A scalar is compared as its term is. -/
theorem comparand_ofScalar (s : Schema) (name : String) (v : Scalar) :
    s.comparand name (.ofScalar v) = s.comparand name (.bound v) := by
  cases v <;> rfl

theorem selects_compare {name : String} {v : Sql.Term} {r : Record} :
    selects s (some (.single (.compare name .eq v))) r ↔ (s.cell r name).compare .eq (s.comparand name v) = .yes := by
  unfold selects
  rw [Option.all_some, holds_single, beq_iff_eq]
  rfl

/-- A record is selected by an identity when its own is the same. -/
theorem KeyedBy.selects_identity (hs : s.KeyedBy identity type) {id : Scalar} (hid : type.Owns id) (r : Record) :
    selects s (some (.single (.compare identity .eq (.ofScalar id)))) r =
      (Record.cell r identity).same (Cell.ofScalar id) := by
  rw [Bool.eq_iff_iff, selects_compare, hs.cell_identity, hs.comparand_identity hid, Cell.compare_eq_yes,
    and_iff_right hid.isNull_ofScalar, and_iff_right_iff_imp]
  intro hsame
  rw [Cell.isNull_of_same hsame, hid.isNull_ofScalar]

/-- A record is selected by a list of identities when its own is the same as one of them. -/
theorem KeyedBy.selects_identities (hs : s.KeyedBy identity type) {ids : List Scalar} (hids : ∀ id ∈ ids, type.Owns id)
    {r : Record} (hr : (Record.cell r identity).isNull = false) :
    selects s (some (.single (.isIn identity false (ids.map .ofScalar)))) r ↔
      ∃ id ∈ ids, (Record.cell r identity).same (Cell.ofScalar id) := by
  unfold selects
  rw [Option.all_some, holds_single, beq_iff_eq]
  show Truth.any (((ids.map Sql.Term.ofScalar)).map fun v =>
    (s.cell r identity).compare .eq (s.comparand identity v)) = .yes ↔ _
  rw [Truth.any_eq_yes, List.map_map, List.mem_map]
  refine exists_congr fun id => and_congr_right fun hid => ?_
  show (s.cell r identity).compare .eq (s.comparand identity (.ofScalar id)) = .yes ↔ _
  rw [hs.cell_identity, hs.comparand_identity (hids id hid)]
  simp only [Cell.compare, hr, (hids id hid).isNull_ofScalar, Cell.same, relates]
  cases (Record.cell r identity).order (Cell.ofScalar id) <;> simp [Truth.ofBool]

end Storage.Schema

/-! ### Records with different identities -/

namespace Storage

/-- Every record has an identity of a type, and no two have the same. -/
structure Identified (identity : String) (type : ColumnType) (records : List Record) : Prop where
  owned : ∀ r ∈ records, ∃ id, type.Owns id ∧ Record.cell r identity = Cell.ofScalar id
  nodup : (records.map fun r => Record.cell r identity).Nodup

variable {identity : String} {type : ColumnType}

theorem Identified.isNull {records : List Record} (h : Identified identity type records) {r : Record}
    (hr : r ∈ records) : (Record.cell r identity).isNull = false := by
  obtain ⟨id, hid, he⟩ := h.owned r hr
  rw [he, hid.isNull_ofScalar]

theorem Identified.same_iff {records : List Record} (h : Identified identity type records) {r : Record}
    (hr : r ∈ records) {id : Scalar} (hid : type.Owns id) :
    (Record.cell r identity).same (Cell.ofScalar id) ↔ Record.cell r identity = Cell.ofScalar id := by
  obtain ⟨id', hid', he⟩ := h.owned r hr
  rw [he, hid'.same_iff hid, hid'.ofScalar_inj hid]

theorem Identified.perm {l l' : List Record} (h : Identified identity type l) (hp : l.Perm l') :
    Identified identity type l' where
  owned r hr := h.owned r (hp.mem_iff.2 hr)
  nodup := (hp.map _).nodup_iff.1 h.nodup

theorem Identified.append {records : List Record} (h : Identified identity type records) {r : Record} {id : Scalar}
    (hid : type.Owns id) (hr : Record.cell r identity = Cell.ofScalar id)
    (hnew : ∀ o ∈ records, Record.cell o identity ≠ Cell.ofScalar id) :
    Identified identity type (records ++ [r]) where
  owned o ho := by
    rcases List.mem_append.1 ho with ho | ho
    · exact h.owned o ho
    · rw [List.mem_singleton] at ho
      exact ⟨id, hid, ho ▸ hr⟩
  nodup := by
    rw [List.map_append, List.nodup_append]
    refine ⟨h.nodup, by simp, ?_⟩
    intro a ha b hb
    obtain ⟨o, ho, rfl⟩ := List.mem_map.1 ha
    rw [List.map_singleton, List.mem_singleton] at hb
    rw [hb, hr]
    exact hnew o ho

/-- Changes that keep the identities keep records apart. -/
theorem Identified.map {records : List Record} (h : Identified identity type records) {change : Record → Record}
    (hchange : ∀ r, Record.cell (change r) identity = Record.cell r identity) :
    Identified identity type (records.map change) where
  owned r hr := by
    obtain ⟨o, ho, rfl⟩ := List.mem_map.1 hr
    rw [hchange]
    exact h.owned o ho
  nodup := by
    have hcells : ((fun r => Record.cell r identity) ∘ change) = fun r => Record.cell r identity := funext hchange
    rw [List.map_map, hcells]
    exact h.nodup

/-- What holds of at most one item is found by looking for the first. -/
private theorem filter_eq_toList_find? {α : Type} {p : α → Bool} {l : List α}
    (h : l.Pairwise fun a b => ¬(p a ∧ p b)) : l.filter p = (l.find? p).toList := by
  induction l with
  | nil => rfl
  | cons a rest ih =>
    rw [List.pairwise_cons] at h
    by_cases ha : p a
    · have hrest : rest.filter p = [] := by
        rw [List.filter_eq_nil_iff]
        exact fun b hb hpb => h.1 b hb ⟨ha, hpb⟩
      rw [List.filter_cons_of_pos ha, List.find?_cons_of_pos ha, hrest]
      rfl
    · rw [List.filter_cons_of_neg ha, List.find?_cons_of_neg ha, ih h.2]

/-- At most one record has an identity. -/
theorem Identified.filter_same {records : List Record} (h : Identified identity type records) {id : Scalar}
    (hid : type.Owns id) :
    records.filter (fun r => (Record.cell r identity).same (Cell.ofScalar id)) =
      (records.find? fun r => (Record.cell r identity).same (Cell.ofScalar id)).toList := by
  apply filter_eq_toList_find?
  have hnodup := h.nodup
  unfold List.Nodup at hnodup
  rw [List.pairwise_map] at hnodup
  refine List.Pairwise.imp_of_mem ?_ hnodup
  rintro a b ha hb hne ⟨hsa, hsb⟩
  rw [h.same_iff ha hid] at hsa
  rw [h.same_iff hb hid] at hsb
  exact hne (hsa.trans hsb.symm)

namespace Table

/-- A table keyed by an identity column that is its only constraint. -/
structure Keyed (t : Table) (identity : String) (type : ColumnType) : Prop where
  schema : t.schema.KeyedBy identity type
  records : Identified identity type t.records

/-- The stored record with an identity. -/
def stored? (t : Table) (id : Scalar) : Option Record :=
  t.records.find? fun r => (Record.cell r t.schema.key).same (Cell.ofScalar id)

/-- Whether a record with an identity is stored. -/
def has (t : Table) (id : Scalar) : Bool := (t.stored? id).isSome

/-- The row of the stored record with an identity. -/
def storedRow? (t : Table) (id : Scalar) : Option Row := (t.stored? id).map (t.schema.row t.schema.columnNames)

variable {t : Table} {id : Scalar}

theorem scan_perm (t : Table) : t.scan.Perm t.records := List.mergeSort_perm _ _

theorem has_iff_exists_selects (hs : t.schema.KeyedBy identity type) (hid : type.Owns id) :
    t.has id ↔ ∃ r ∈ t.records, selects t.schema (some (.single (.compare identity .eq (.ofScalar id)))) r := by
  unfold has stored?
  rw [List.find?_isSome, hs.key]
  simp only [hs.selects_identity hid]

theorem Keyed.has_iff (h : t.Keyed identity type) (hid : type.Owns id) :
    t.has id ↔ ∃ r ∈ t.records, Record.cell r identity = Cell.ofScalar id := by
  unfold has stored?
  rw [List.find?_isSome, h.schema.key]
  refine exists_congr fun r => and_congr_right fun hr => ?_
  exact h.records.same_iff hr hid

theorem Keyed.cell_of_stored? (h : t.Keyed identity type) (hid : type.Owns id) {r : Record}
    (hr : t.stored? id = some r) : r ∈ t.records ∧ Record.cell r identity = Cell.ofScalar id := by
  unfold stored? at hr
  rw [h.schema.key] at hr
  have hmem := List.mem_of_find?_eq_some hr
  have hsame := List.find?_some hr
  exact ⟨hmem, (h.records.same_iff hmem hid).1 hsame⟩

/-- Selecting by an identity finds the stored record, or none. -/
theorem Keyed.matching_identity (h : t.Keyed identity type) (hid : type.Owns id) :
    t.matching (some (.single (.compare identity .eq (.ofScalar id)))) = (t.stored? id).toList := by
  have hsel : t.matching (some (.single (.compare identity .eq (.ofScalar id)))) =
      t.scan.filter fun r => (Record.cell r identity).same (Cell.ofScalar id) :=
    List.filter_congr fun r _ => h.schema.selects_identity hid r
  -- one record at most is selected, so the order of the scan does not matter
  have hperm := (t.scan_perm.filter fun r => (Record.cell r identity).same (Cell.ofScalar id))
  rw [h.records.filter_same hid] at hperm
  unfold stored?
  rw [hsel, h.schema.key]
  cases hfind : t.records.find? fun r => (Record.cell r identity).same (Cell.ofScalar id) with
  | none =>
    rw [hfind] at hperm
    exact hperm.eq_nil
  | some r =>
    rw [hfind] at hperm
    exact List.perm_singleton.1 hperm

/-! ### Violations -/

/-- A record with an identity has every value that must not be missing. -/
private theorem demanded_eq_none (hs : t.schema.KeyedBy identity type) {r : Record} (hid : type.Owns id)
    (hr : Record.cell r identity = Cell.ofScalar id) :
    (t.schema.columns.find? fun c => t.demands c && (Record.cell r c.name).isNull) = none := by
  rw [List.find?_eq_none]
  intro c hc
  by_cases hname : c.name = identity
  · simp [hname, hr, hid.isNull_ofScalar]
  · simp [demands, hs.key, hname, (hs.unconstrained c hc hname).1]

/-- A record whose identity no other one has violates nothing. -/
theorem Keyed.violation?_eq_none (hs : t.schema.KeyedBy identity type) {others : List Record} {r : Record}
    (hid : type.Owns id) (hr : Record.cell r identity = Cell.ofScalar id)
    (hnew : ∀ o ∈ others, ¬(Record.cell o identity).same (Cell.ofScalar id)) : t.violation? others r = none := by
  have htaken : taken others r identity = false := by
    unfold taken
    rw [hr, hid.isNull_ofScalar, Bool.not_false, Bool.true_and, List.any_eq_false]
    exact hnew
  -- of the columns only the identity column may be unique
  have hunique : (t.schema.columns.findSome? fun c => c.unique.bind fun effect =>
      if taken others r c.name then some (StorageError.duplicateValue t.schema.name c.name effect) else none) =
      none := by
    rw [List.findSome?_eq_none_iff]
    intro c hc
    by_cases hname : c.name = identity
    · cases c.unique <;> simp [hname, htaken]
    · simp [(hs.unconstrained c hc hname).2]
  unfold violation?
  rw [demanded_eq_none hs hid hr]
  simp [hs.key, htaken, hunique]

/-- A record whose identity another one has as well is a duplicate. -/
theorem Keyed.violation?_eq_duplicateKey (hs : t.schema.KeyedBy identity type) {others : List Record} {o r : Record}
    (hid : type.Owns id) (hr : Record.cell r identity = Cell.ofScalar id) (ho : o ∈ others)
    (hsame : Record.cell o identity = Cell.ofScalar id) :
    t.violation? others r = some (.duplicateKey t.schema.name identity) := by
  have htaken : taken others r identity := by
    unfold taken
    rw [hr, hid.isNull_ofScalar, Bool.not_false, Bool.true_and, List.any_eq_true]
    exact ⟨o, ho, by rw [hsame, hid.same_iff hid]⟩
  unfold violation?
  rw [demanded_eq_none hs hid hr]
  simp [hs.key, htaken]

theorem Keyed.keyFits (hs : t.schema.KeyedBy identity type) {r : Record} (hid : type.Owns id)
    (hr : Record.cell r identity = Cell.ofScalar id) : t.keyFits r := by
  unfold Table.keyFits
  rw [hs.key, hr]
  cases hkind : t.schema.keyKind with
  | natural => rfl
  | _ =>
    have htype := hs.numbered (by simp [hkind])
    subst htype
    cases id <;> first | rfl | exact absurd hid id

end Table

end Storage

end CriteriaStore
