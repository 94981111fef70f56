import CriteriaStore.Proofs.Repository.Serving

/-!
# Looking up several identities

A batch asks for its identities with one condition, that the identity is one of a list (`Rows.oneOf`). The property of
the identity column is mapped, so the condition always compiles (`condition_oneOf`). It selects the records that one of
the identities names, whose key texts are read (`Readable.gives_storedKeys`); on a keyed table these key texts tell which
of the identities are stored (`Serves.gives_storedKeys`).
-/

namespace CriteriaStore

open Storage (Connection Table ColumnType Cell Record)

variable {ε : Type}

/-! ### The condition -/

namespace OrderedMap

theorem filter_key {κ ν : Type} [DecidableEq κ] {m : OrderedMap κ ν} {k : κ} {v : ν} (h : m.get? k = some v) :
    (m.entries.filter fun e => e.1 = k) = [(k, v)] := by
  have hmem := get?_eq_some_iff.1 h
  have hsub : ((m.entries.filter fun e => e.1 = k).map Prod.fst).Nodup :=
    m.nodup.sublist (List.filter_sublist.map _)
  cases hl : m.entries.filter fun e => e.1 = k with
  | nil =>
    rw [List.filter_eq_nil_iff] at hl
    exact absurd (by simp) (hl (k, v) hmem)
  | cons e rest =>
    have hkey : ∀ a ∈ e :: rest, a.1 = k := by
      intro a ha
      rw [← hl, List.mem_filter] at ha
      simpa using ha.2
    have hrest : rest = [] := by
      rw [hl, List.map_cons, List.nodup_cons] at hsub
      refine List.eq_nil_iff_forall_not_mem.2 fun a ha => hsub.1 ?_
      rw [hkey e List.mem_cons_self, ← hkey a (List.mem_cons_of_mem _ ha)]
      exact List.mem_map_of_mem ha
    have hin : (k, v) ∈ e :: rest := by
      rw [← hl, List.mem_filter]
      exact ⟨hmem, by simp⟩
    rw [hrest, List.mem_singleton] at hin
    rw [hrest, hin]

end OrderedMap

namespace Mapping

variable {m : Mapping ε} {property : String}

theorem get?_of_identityProperty (h : m.identityProperty = .ok property) :
    m.properties.get? property = some m.identity := by
  unfold identityProperty PropertyMap.propertyOf? at h
  cases hfind : m.properties.entries.find? fun e => e.2 = m.identity with
  | none => simp [hfind] at h
  | some e =>
    have hcolumn := List.find?_some hfind
    have hmem := List.mem_of_find?_eq_some hfind
    simp only [hfind, Option.map_some, Except.ok.injEq, decide_eq_true_eq] at h hcolumn
    rw [OrderedMap.get?_eq_some_iff, ← h, ← hcolumn]
    exact hmem

theorem exists_identityProperty (h : m.identity ∈ m.properties.columns) :
    ∃ property, m.identityProperty = .ok property := by
  obtain ⟨e, he, hcolumn⟩ := List.mem_map.1 h
  have hsome : (m.properties.entries.find? fun e => e.2 = m.identity).isSome := by
    rw [List.find?_isSome]
    exact ⟨e, he, by simpa using hcolumn⟩
  obtain ⟨e', hfind⟩ := Option.isSome_iff_exists.1 hsome
  refine ⟨e'.1, ?_⟩
  unfold identityProperty PropertyMap.propertyOf?
  rw [hfind]
  rfl

/-- The condition that a record has one of some identities. -/
def hasOneOf (m : Mapping ε) (ids : List Scalar) : Sql.Where :=
  .single (.isIn m.identity false (ids.map .ofScalar))

/-- The condition of identities compiles, and to nothing only for no identities. -/
theorem condition_oneOf (h : m.properties.get? property = some m.identity) (ids : List Scalar) (b : Bindings) :
    ∃ b', m.condition (some (Rows.oneOf property ids)) b =
      .ok (if ids = [] then none else some (m.hasOneOf ids), b') := by
  have hcolumn : m.properties.column property = .ok m.identity := by
    unfold PropertyMap.column
    rw [h]
  cases ids with
  | nil => exact ⟨b, rfl⟩
  | cons id rest =>
    have hconditions : (Rows.oneOf property (id :: rest)).conditions =
        [(.must, .group, ⟨property, .set (id :: rest)⟩)] := rfl
    simp only [condition, Filter.compile, hconditions, Filter.predicates, Condition.predicate, hcolumn]
    exact ⟨_, rfl⟩

theorem select_identity (h : m.properties.get? property = some m.identity) :
    Sql.Projection.ofFields m.properties (some (FieldSet.ofList [property])) = .ok (.columns [m.identity]) := by
  have hnames : (FieldSet.ofList [property]).names = [property] := rfl
  have hcontains : (fun e : String × String => (FieldSet.ofList [property]).contains e.1) =
      fun e : String × String => decide (e.1 = property) := by
    funext e
    unfold FieldSet.contains
    rw [hnames]
    simp
  have hselect : m.properties.select (FieldSet.ofList [property]) = .ok [m.identity] := by
    unfold PropertyMap.select
    rw [hnames, hcontains, OrderedMap.filter_key h]
    simp [OrderedMap.contains, h]
  simp only [Sql.Projection.ofFields, hselect]
  rfl

end Mapping

/-! ### Named records and their keys -/

namespace Mapping

variable {m : Mapping ε} {t : Table} {r : Record} {ids : List Scalar}

/-- The key text of the identity that is read back from a record. -/
def key? (m : Mapping ε) (t : Table) (r : Record) : Option String :=
  ((t.schema.row [m.identity] r).get? m.identity).map Scalar.keyText

/-- The key texts of the records that one of some identities names. -/
def keysOf (m : Mapping ε) (t : Table) (ids : List Scalar) : List String :=
  (t.matching (some (m.hasOneOf ids))).filterMap (m.key? t)

private theorem selects_hasOneOf : Storage.selects t.schema (some (m.hasOneOf ids)) r ↔ ∃ id ∈ ids, m.Names t id r := by
  unfold Names Storage.selects hasOneOf
  simp only [Option.all_some, Storage.Schema.holds_single, beq_iff_eq]
  show Storage.Truth.any ((ids.map Sql.Term.ofScalar).map fun v =>
    (t.schema.cell r m.identity).compare .eq (t.schema.comparand m.identity v)) = .yes ↔ _
  rw [Storage.Truth.any_eq_yes, List.map_map, List.mem_map]
  simp only [Function.comp_apply, Storage.Schema.comparand_ofScalar]

theorem mem_keysOf {key : String} :
    key ∈ m.keysOf t ids ↔ ∃ r ∈ t.records, (∃ id ∈ ids, m.Names t id r) ∧ m.key? t r = some key := by
  unfold keysOf Table.matching
  simp only [List.mem_filterMap, List.mem_filter, t.scan_perm.mem_iff, selects_hasOneOf, and_assoc]

end Mapping

/-- The keys of some identities are those of the records that one of them names. -/
theorem Readable.gives_storedKeys {c : Connection} {m : Mapping ε} {t : Table} (h : Readable c m t)
    (hmapped : m.identity ∈ m.properties.columns) (ids : List Scalar) :
    (Rows.storedKeys m ids).Gives c (.ok (m.keysOf t ids)) c := by
  by_cases hne : ids = []
  · have hnone : m.keysOf t ids = [] := by
      rw [List.eq_nil_iff_forall_not_mem]
      intro key hkey
      obtain ⟨r, -, ⟨id, hid, -⟩, -⟩ := Mapping.mem_keysOf.1 hkey
      rw [hne] at hid
      cases hid
    rw [hnone, hne]
    exact Action.gives_pure _ _
  · obtain ⟨property, hproperty⟩ := Mapping.exists_identityProperty hmapped
    have hp := Mapping.get?_of_identityProperty hproperty
    obtain ⟨b, hcondition⟩ := Mapping.condition_oneOf hp ids {}
    rw [if_neg hne] at hcondition
    let q : Sql.Select :=
      { table := m.table, projection := .columns [m.identity], condition := some (m.hasOneOf ids) }
    have hselection : m.selection q.projection (some (Rows.oneOf property ids)) none {} = .ok (q, b) :=
      Mapping.selection_eq_ok.2 ⟨some (m.hasOneOf ids), [], hcondition, rfl, rfl⟩
    have hfind := h.gives_findBy (Mapping.select_identity hp) hselection
    have hkeys : (t.rows q).filterMap (fun r => (r.get? m.identity).map Scalar.keyText) = m.keysOf t ids := by
      rw [t.rows_of_plain rfl rfl, List.filterMap_map]
      rfl
    unfold Rows.storedKeys
    simp only [List.isEmpty_iff, hne, hproperty]
    refine (Action.gives_resolve property c).bind (hfind.bind ?_)
    rw [hkeys]
    exact Action.gives_pure _ _

/-! ### On a keyed table -/

namespace Serves

variable {c : Connection} {m : Mapping ε} {t : Table} {type : ColumnType} {property : String} {ids : List Scalar}

/-- The rows of the records with one of some identities, in the order of the key. -/
theorem gives_findBy (h : Serves c m t type) (hp : m.properties.get? property = some m.identity) (hne : ids ≠ [])
    {fields : Option FieldSet} {projection : Sql.Projection}
    (hproj : Sql.Projection.ofFields m.properties fields = .ok projection) :
    (Rows.findBy m (some (Rows.oneOf property ids)) none fields).Gives c
      (.ok ((t.matching (some (m.hasOneOf ids))).map (t.schema.row (t.schema.asked projection)))) c := by
  obtain ⟨b, hcondition⟩ := Mapping.condition_oneOf hp ids {}
  rw [if_neg hne] at hcondition
  have hselection : m.selection projection (some (Rows.oneOf property ids)) none {} =
      .ok ({ table := m.table, projection, condition := some (m.hasOneOf ids) }, b) :=
    Mapping.selection_eq_ok.2 ⟨some (m.hasOneOf ids), [], hcondition, rfl, rfl⟩
  have hfind := h.readable.gives_findBy hproj hselection
  rwa [t.rows_of_plain rfl (Sql.Projection.of_ofFields hproj).1] at hfind

private theorem names_iff (h : Serves c m t type) {r : Record} (hr : r ∈ t.records) {id : Scalar} (hid : type.Owns id) :
    m.Names t id r ↔ Record.cell r m.identity = Cell.ofScalar id := by
  have hselects : Storage.selects t.schema (some (m.hasIdentity id)) r =
      (Record.cell r m.identity).same (Cell.ofScalar id) := h.keyed.schema.selects_identity hid r
  rw [← Mapping.selects_hasIdentity, hselects, h.keyed.records.same_iff hr hid]

private theorem key?_eq (h : Serves c m t type) {r : Record} {id : Scalar} (hid : type.Owns id)
    (hr : Record.cell r m.identity = Cell.ofScalar id) : m.key? t r = some id.keyText := by
  have hidentity : ∀ n ∈ [m.identity], n ∈ t.schema.columnNames := by simpa using h.mapped _ h.identified
  unfold Mapping.key?
  rw [h.keyed.schema.get?_row_identity hidentity (by simp) (by simp) hid hr]
  rfl

/-- Of some identities, the keys are those of the stored ones. -/
theorem gives_storedKeys (h : Serves c m t type) (hids : ∀ id ∈ ids, type.Owns id) :
    ∃ keys, (Rows.storedKeys m ids).Gives c (.ok keys) c ∧ ∀ id ∈ ids, keys.contains id.keyText = t.has id := by
  refine ⟨m.keysOf t ids, h.readable.gives_storedKeys h.identified ids, fun id hid => ?_⟩
  rw [Bool.eq_iff_iff, List.contains_iff_mem, Mapping.mem_keysOf, h.keyed.has_iff (hids id hid)]
  constructor
  · rintro ⟨r, hr, ⟨id', hid', hnames⟩, hkey⟩
    have he := (h.names_iff hr (hids id' hid')).1 hnames
    rw [h.key?_eq (hids id' hid') he, Option.some.injEq, (hids id' hid').keyText_inj (hids id hid)] at hkey
    exact ⟨r, hr, hkey ▸ he⟩
  · rintro ⟨r, hr, he⟩
    exact ⟨r, hr, ⟨id, hid, (h.names_iff hr (hids id hid)).2 he⟩, h.key?_eq (hids id hid) he⟩

end Serves

end CriteriaStore
