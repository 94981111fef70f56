import CriteriaStore.Proofs.Repository.Hydrating
import CriteriaStore.Proofs.Repository.Lookup
import CriteriaStore.Repository.Request
import Mathlib.Data.List.Forall2

/-!
# Projected entities

A repository of entities widens a projection by the identity, so that a mapping that needs nothing else (`Hydratable`)
makes an entity of every row that the projection leaves. No row is lost, and none is gained
(`Hydratable.projection_keeps_rows`): each entity is built from the asked columns and the identity of one row of the
unprojected read (`Mapping.Builds`), and a page reports the request as it was made.

A column whose cell storage has no scalar for is left out of a row, projected or not. So an entity can be built from fewer
columns than were asked for (`findBy_lacks_unreadable`).
-/

namespace CriteriaStore

open Storage (Connection Table Record)

variable {ε : Type}

namespace Mapping

variable (m : Mapping ε)

/-- Whether a row needs nothing but an identity to make an entity, which has that identity. -/
def NeedsOnlyIdentity : Prop :=
  ∀ (row : Row) id, id ≠ .null → row.get? m.identity = some id → ∃ e, m.ofRow? row = some e ∧ m.identityOf e = id

/-- The columns of some properties and of the identity, in the order of the mapping. -/
def projected (fields : FieldSet) : List String :=
  (m.properties.entries.filter fun e => fields.contains e.1 || e.2 == m.identity).map Prod.snd

/-- Whether an entity is made of what a row has under some names, and of nothing else, and is identified like the row. -/
def Builds (names : List String) (row : Row) (e : ε) : Prop :=
  ∃ part : Row, m.ofRow? part = some e ∧ part.keys = names.filter row.contains ∧
    (∀ n ∈ names, part.get? n = row.get? n) ∧ row.get? m.identity = some (m.identityOf e)

variable {m}

theorem projected_sublist (fields : FieldSet) : (m.projected fields).Sublist m.properties.columns :=
  List.filter_sublist.map Prod.snd

theorem identity_mem_projected (h : m.identity ∈ m.properties.columns) (fields : FieldSet) :
    m.identity ∈ m.projected fields := by
  obtain ⟨e, he, hcolumn⟩ := List.mem_map.1 h
  refine List.mem_map.2 ⟨e, List.mem_filter.2 ⟨he, ?_⟩, hcolumn⟩
  simp [hcolumn]

/-- Entities that are built from the same rows are identified alike, whatever they are built from. -/
theorem map_identityOf_of_builds {names : List String} {rows : List Row} {es : List ε}
    (h : List.Forall₂ (m.Builds names) rows es) :
    es.map m.identityOf = rows.filterMap fun row => row.get? m.identity := by
  induction h with
  | nil => rfl
  | cons hfirst _ ih =>
    obtain ⟨_, _, _, _, hid⟩ := hfirst
    simp only [List.map_cons, List.filterMap_cons, hid, ih]

end Mapping

/-- A connection on which a mapping can read its table: every record has an identity that can be read, and the mapping needs
nothing else to make an entity of it. -/
structure Hydratable (c : Connection) (m : Mapping ε) (t : Table) : Prop extends Readable c m t where
  schema : t.schema.WellFormed
  declared : ∀ n ∈ m.properties.columns, n ∈ t.schema.columnNames
  distinct : m.properties.columns.Nodup
  needsOnlyIdentity : m.NeedsOnlyIdentity
  shown : ∀ record ∈ t.records, ∃ id, id ≠ .null ∧ (t.schema.row t.schema.columnNames record).get? m.identity = some id

namespace EntityRepository

variable {r : EntityRepository ε} {fields : FieldSet}

theorem identity_mem_columns : r.mapping.identity ∈ r.mapping.properties.columns := by
  have hproperty := Mapping.get?_of_identityProperty r.identified
  exact List.mem_map_of_mem (OrderedMap.get?_eq_some_iff.1 hproperty)

/-- The identity property may be added to mapped fields: it is mapped itself. -/
theorem contains_of_mem_add (hmapped : ∀ p ∈ fields.names, r.mapping.properties.contains p) :
    ∀ p ∈ (fields.add r.identityProperty).names, r.mapping.properties.contains p := by
  intro p hp
  rcases FieldSet.mem_add.1 hp with hp | rfl
  · exact hmapped p hp
  · simp [OrderedMap.contains, Mapping.get?_of_identityProperty r.identified]

/-- With the identity property, some fields select the columns of both. -/
private theorem select_widened (hdistinct : r.mapping.properties.columns.Nodup)
    (hmapped : ∀ p ∈ fields.names, r.mapping.properties.contains p) :
    r.mapping.properties.select (fields.add r.identityProperty) = .ok (r.mapping.projected fields) := by
  have hproperty := Mapping.get?_of_identityProperty r.identified
  have hnone : ((fields.add r.identityProperty).names.find? fun p => !r.mapping.properties.contains p) = none := by
    refine List.find?_eq_none.2 fun p hp => ?_
    simp [contains_of_mem_add hmapped p hp]
  have hsame : ∀ e ∈ r.mapping.properties.entries, (fields.add r.identityProperty).contains e.1 =
      (fields.contains e.1 || e.2 == r.mapping.identity) := by
    intro e he
    -- only one property is mapped to the identity column
    have hidentity : e.1 = r.identityProperty ↔ e.2 = r.mapping.identity := by
      have hmem := OrderedMap.get?_eq_some_iff.1 hproperty
      constructor
      · intro hfst
        exact congrArg Prod.snd (List.inj_on_of_nodup_map r.mapping.properties.nodup he hmem hfst)
      · intro hsnd
        exact congrArg Prod.fst (List.inj_on_of_nodup_map hdistinct he hmem hsnd)
    rw [Bool.eq_iff_iff]
    simp only [FieldSet.contains, decide_eq_true_eq, FieldSet.mem_add, Bool.or_eq_true, beq_iff_eq, hidentity]
  unfold PropertyMap.select
  rw [hnone, List.filter_congr hsame]
  rfl

theorem projection_withIdentity (hdistinct : r.mapping.properties.columns.Nodup) (hne : fields.isEmpty = false)
    (hmapped : ∀ p ∈ fields.names, r.mapping.properties.contains p) :
    r.withIdentity (some fields) = some (fields.add r.identityProperty) ∧
      Sql.Projection.ofFields r.mapping.properties (some (fields.add r.identityProperty)) =
        .ok (.columns (r.mapping.projected fields)) := by
  have hadded := fields.isEmpty_add r.identityProperty
  constructor
  · unfold withIdentity
    simp only [hne]
    rfl
  · unfold Sql.Projection.ofFields
    simp only [hadded, select_widened hdistinct hmapped]
    rfl

/-- Mapped fields select columns of their own. -/
theorem exists_projection (hne : fields.isEmpty = false)
    (hmapped : ∀ p ∈ fields.names, r.mapping.properties.contains p) :
    ∃ names, Sql.Projection.ofFields r.mapping.properties (some fields) = .ok (.columns names) := by
  have hnone : (fields.names.find? fun p => !r.mapping.properties.contains p) = none := by
    refine List.find?_eq_none.2 fun p hp => ?_
    simp [hmapped p hp]
  unfold Sql.Projection.ofFields PropertyMap.select
  simp only [hne, hnone]
  exact ⟨_, rfl⟩

/-- A page of some fields is that of the widened fields, with the request as it was made. -/
private theorem page_eq {request : PageRequest} {widened : FieldSet} (h : r.withIdentity request.fields = some widened) :
    r.page (some request) = (do
      let p ← Rows.page r.mapping (some { request with fields := some widened })
      return Page.of (← r.hydrateAll p.content) p.total request) := by
  simp only [page, h]

/-- When the row of every record hydrates to an entity, all of them do, in their order. -/
private theorem hydrateAll_eq_ok {records : List Record} {row : Record → Row} {made : Record → ε → Prop}
    (h : ∀ record ∈ records, ∃ e, r.hydrate (row record) = .ok (some e) ∧ made record e) :
    ∃ es, r.hydrateAll (records.map row) = .ok es ∧ List.Forall₂ made records es := by
  induction records with
  | nil => exact ⟨[], rfl, .nil⟩
  | cons record rest ih =>
    obtain ⟨hfirst, hrest⟩ := List.forall_mem_cons.1 h
    obtain ⟨e, he, hmade⟩ := hfirst
    obtain ⟨es, hes, hall⟩ := ih hrest
    refine ⟨e :: es, ?_, .cons hmade hall⟩
    simp only [List.map_cons, hydrateAll, he, hes]
    rfl

end EntityRepository

namespace Hydratable

variable {c : Connection} {r : EntityRepository ε} {t : Table} {fields : FieldSet} {names : List String}
  {filter : Option Filter} {sort : Option SortOrder} {q : Sql.Select} {b : Bindings}

/-! ### Rows of some columns -/

section Rows

variable (h : Hydratable c r.mapping t) (hnames : ∀ n ∈ names, n ∈ t.schema.columnNames) (hnodup : names.Nodup)
  (hidentity : r.mapping.identity ∈ names)

include h hnames hnodup hidentity

private theorem get?_identity {record : Record} (hrecord : record ∈ t.records) :
    ∃ id, id ≠ .null ∧ (t.schema.row t.schema.columnNames record).get? r.mapping.identity = some id ∧
      (t.schema.row names record).get? r.mapping.identity = some id := by
  obtain ⟨id, hid, hget⟩ := h.shown record hrecord
  refine ⟨id, hid, hget, ?_⟩
  rw [h.schema.get?_row_of_mem hnames hnodup hidentity, hget]

private theorem isEmpty_row {record : Record} (hrecord : record ∈ t.records) :
    (t.schema.row names record).isEmpty = false := by
  obtain ⟨id, -, -, hkept⟩ := h.get?_identity hnames hnodup hidentity hrecord
  exact OrderedMap.isEmpty_of_get? hkept

/-- The row of some columns with the identity makes an entity, whatever the other columns are. -/
private theorem hydrate_row {record : Record} (hrecord : record ∈ t.records) :
    ∃ e, r.hydrate (t.schema.row names record) = .ok (some e) ∧
      r.mapping.Builds names (t.schema.row t.schema.columnNames record) e := by
  obtain ⟨id, hid, hget, hkept⟩ := h.get?_identity hnames hnodup hidentity hrecord
  obtain ⟨e, he, hsame⟩ := h.needsOnlyIdentity _ id hid hkept
  refine ⟨e, r.hydrate_eq_ok (h.isEmpty_row hnames hnodup hidentity hrecord) he,
    t.schema.row names record, he, ?_, ?_, ?_⟩
  · exact h.schema.keys_row hnames hnodup record
  · exact fun n hn => h.schema.get?_row_of_mem hnames hnodup hn record
  · rw [hget, hsame]

private theorem hydrateAll_rows {records : List Record} (hrecords : ∀ record ∈ records, record ∈ t.records) :
    ∃ es, r.hydrateAll (records.map (t.schema.row names)) = .ok es ∧
      List.Forall₂ (r.mapping.Builds names) (records.map (t.schema.row t.schema.columnNames)) es := by
  obtain ⟨es, hes, hall⟩ := EntityRepository.hydrateAll_eq_ok fun record hrecord =>
    h.hydrate_row hnames hnodup hidentity (hrecords record hrecord)
  exact ⟨es, hes, List.forall₂_map_left_iff.2 hall⟩

/-- A selection of some columns with the identity makes an entity of each row of the selection of all columns. -/
private theorem hydrateAll_selection (hall : q.projection = .all) :
    ∃ es, r.hydrateAll (t.rows { q with projection := .columns names }) = .ok es ∧
      List.Forall₂ (r.mapping.Builds names) (t.rows q) es := by
  have hplain : Storage.isDistinct q.projection = false := by
    rw [hall]
    rfl
  have hrows : t.rows { q with projection := .columns names } =
      (Storage.stretch q.offset q.limit (t.ordered q)).map (t.schema.row names) := by
    unfold Table.rows
    rw [Table.ordered_columns hplain]
    rfl
  have hrecords : ∀ record ∈ Storage.stretch q.offset q.limit (t.ordered q), record ∈ t.records := fun record hrecord =>
    Table.mem_of_mem_ordered (Storage.mem_of_mem_stretch hrecord)
  rw [hrows]
  unfold Table.rows
  rw [hall]
  exact h.hydrateAll_rows hnames hnodup hidentity hrecords

end Rows

/-! ### Calls -/

private theorem gives_ok {α : Type} {x : Except RepositoryError α} {a : α} (h : x = .ok a) :
    (liftM x : Action α).Gives c (.ok a) c := by
  rw [h]
  exact Action.gives_lift _ c

/-- Without a projection every row makes an entity. -/
private theorem gives_findBy_all (h : Hydratable c r.mapping t)
    (hq : r.mapping.selection .all filter sort {} = .ok (q, b)) :
    ∃ es, (r.findBy filter sort none).Gives c (.ok es) c ∧
      List.Forall₂ (r.mapping.Builds t.schema.columnNames) (t.rows q) es := by
  obtain ⟨hall, -⟩ := Mapping.selection_projection hq .all
  have hidentity := h.declared _ EntityRepository.identity_mem_columns
  have hrows : t.rows { q with projection := .columns t.schema.columnNames } = t.rows q := by
    unfold Table.rows
    rw [Table.ordered_columns (by rw [hall]; rfl), hall]
    rfl
  obtain ⟨es, hes, hbuilt⟩ := h.hydrateAll_selection (fun _ hn => hn) h.schema.nodup_columnNames hidentity hall
  rw [hrows] at hes
  have hproj : Sql.Projection.ofFields r.mapping.properties none = .ok .all := rfl
  exact ⟨es, (h.toReadable.gives_findBy hproj hq).bind (gives_ok hes), hbuilt⟩

section Projected

variable (h : Hydratable c r.mapping t) (hne : fields.isEmpty = false)
  (hmapped : ∀ p ∈ fields.names, r.mapping.properties.contains p)

include h in
private theorem projected_declared (fields : FieldSet) :
    (∀ n ∈ r.mapping.projected fields, n ∈ t.schema.columnNames) ∧ (r.mapping.projected fields).Nodup ∧
      r.mapping.identity ∈ r.mapping.projected fields := by
  refine ⟨fun n hn => h.declared n ((Mapping.projected_sublist fields).subset hn), ?_, ?_⟩
  · exact h.distinct.sublist (Mapping.projected_sublist fields)
  · exact Mapping.identity_mem_projected EntityRepository.identity_mem_columns fields

include h hne hmapped

private theorem gives_findBy_projected (hq : r.mapping.selection .all filter sort {} = .ok (q, b)) :
    ∃ es, (r.findBy filter sort (some fields)).Gives c (.ok es) c ∧
      List.Forall₂ (r.mapping.Builds (r.mapping.projected fields)) (t.rows q) es := by
  obtain ⟨hwidened, hproj⟩ := EntityRepository.projection_withIdentity h.distinct hne hmapped
  obtain ⟨hnames, hnodup, hidentity⟩ := h.projected_declared fields
  obtain ⟨hall, hcolumns⟩ := Mapping.selection_projection hq (.columns (r.mapping.projected fields))
  obtain ⟨es, hes, hbuilt⟩ := h.hydrateAll_selection hnames hnodup hidentity hall
  refine ⟨es, ?_, hbuilt⟩
  unfold EntityRepository.findBy
  rw [hwidened]
  exact (h.toReadable.gives_findBy hproj hcolumns).bind (gives_ok hes)

private theorem gives_find_projected (id : Scalar) :
    ∃ row? e?, (Rows.find r.mapping id none).Gives c (.ok row?) c ∧ (r.find id (some fields)).Gives c (.ok e?) c ∧
      Option.Rel (r.mapping.Builds (r.mapping.projected fields)) row? e? := by
  obtain ⟨hwidened, hproj⟩ := EntityRepository.projection_withIdentity h.distinct hne hmapped
  obtain ⟨hnames, hnodup, hidentity⟩ := h.projected_declared fields
  cases hid : id.isNull with
  | true =>
    refine ⟨none, none, Rows.gives_find_null hid, ?_, .none⟩
    exact (Rows.gives_find_null hid).bind (Action.gives_pure none c)
  | false =>
    have hshown : ∀ record ∈ t.records, (t.schema.row t.schema.columnNames record).isEmpty = false := fun record hrecord =>
      h.isEmpty_row (fun _ hn => hn) h.schema.nodup_columnNames (h.declared _ EntityRepository.identity_mem_columns) hrecord
    have hrow := h.toReadable.gives_find hid hshown
    have hpart := h.toReadable.gives_find_of_fields hid hproj fun record hrecord =>
      h.isEmpty_row hnames hnodup hidentity hrecord
    unfold EntityRepository.find
    rw [hwidened]
    cases hfound : (t.matching (some (r.mapping.hasIdentity id))).head? with
    | none =>
      rw [hfound] at hrow hpart
      exact ⟨none, none, hrow, hpart.bind (Action.gives_pure none c), .none⟩
    | some record =>
      rw [hfound] at hrow hpart
      have hmatching := List.mem_of_mem_head? hfound
      have hrecord := t.scan_perm.mem_iff.1 (List.mem_filter.1 hmatching).1
      obtain ⟨e, he, hbuilt⟩ := h.hydrate_row hnames hnodup hidentity hrecord
      exact ⟨_, some e, hrow, hpart.bind (gives_ok he), .some hbuilt⟩

/-- A page of some fields makes an entity of each row of the page of all columns, and tells the total of the page of
rows. -/
private theorem gives_page_projected {request : PageRequest} (hfields : request.fields = some fields)
    (hdistinct : ∀ d, request.distinct = some d → d.isEmpty)
    (hq : r.mapping.selection .all request.filter request.sort {} = .ok (q, b)) :
    ∃ (p raw : Page Row) (es : List ε), (Rows.page r.mapping (some { request with fields := none })).Gives c (.ok p) c ∧
      (Rows.page r.mapping (some request)).Gives c (.ok raw) c ∧
      (r.page (some request)).Gives c (.ok (Page.of es raw.total request)) c ∧
      (Page.of es raw.total request).pages = raw.pages ∧
      List.Forall₂ (r.mapping.Builds (r.mapping.projected fields)) p.content es := by
  obtain ⟨hwidened, hproj⟩ := EntityRepository.projection_withIdentity h.distinct hne hmapped
  obtain ⟨hnames, hnodup, hidentity⟩ := h.projected_declared fields
  obtain ⟨hall, hcolumns⟩ := Mapping.selection_projection hq (.columns (r.mapping.projected fields))
  obtain ⟨asked, hasked⟩ := EntityRepository.exists_projection hne hmapped
  have hunprojected : Sql.Projection.ofFields r.mapping.properties none = .ok .all := rfl
  rw [← hfields] at hasked
  -- the same stretch of the table three times: with all columns, with the asked ones, and with the identity besides
  have hp := h.toReadable.gives_page_of_plain (r := { request with fields := none }) hdistinct hunprojected hq
  have hraw := h.toReadable.gives_page_of_plain hdistinct hasked (Mapping.selection_projection hq (.columns asked)).2
  have hinner := h.toReadable.gives_page_of_plain (r := { request with fields := some (fields.add r.identityProperty) })
    hdistinct hproj hcolumns
  obtain ⟨es, hes, hbuilt⟩ := h.hydrateAll_selection hnames hnodup hidentity
    (q := { q with limit := some request.size, offset := some request.offset }) hall
  refine ⟨_, _, es, hp, hraw, ?_, rfl, hbuilt⟩
  rw [← hfields] at hwidened
  rw [EntityRepository.page_eq hwidened]
  exact hinner.bind ((gives_ok hes).bind (Action.gives_pure _ c))

/-- A projection to mapped fields costs a repository of entities no row. Whatever compiles is read, and there is one entity
for each row of the unprojected read, in the same order and with the same identity, built from the asked columns and the
identity column alone, in the order of the mapping; the same holds of a single entity and of a page. A page reports the
request as it was made, and the total and the number of pages of the page of rows. -/
theorem projection_keeps_rows (hq : r.mapping.selection .all filter sort {} = .ok (q, b)) :
    (∃ rows es unprojected, (Rows.findBy r.mapping filter sort none).Gives c (.ok rows) c ∧
        (r.findBy filter sort (some fields)).Gives c (.ok es) c ∧
        List.Forall₂ (r.mapping.Builds (r.mapping.projected fields)) rows es ∧
        (r.findBy filter sort none).Gives c (.ok unprojected) c ∧
        es.map r.mapping.identityOf = unprojected.map r.mapping.identityOf) ∧
      (∀ id, ∃ row? e?, (Rows.find r.mapping id none).Gives c (.ok row?) c ∧
        (r.find id (some fields)).Gives c (.ok e?) c ∧
        Option.Rel (r.mapping.Builds (r.mapping.projected fields)) row? e?) ∧
      ∀ request : PageRequest, request.filter = filter → request.sort = sort → request.fields = some fields →
        (∀ d, request.distinct = some d → d.isEmpty) →
        ∃ (p raw : Page Row) (es : List ε),
          (Rows.page r.mapping (some { request with fields := none })).Gives c (.ok p) c ∧
          (Rows.page r.mapping (some request)).Gives c (.ok raw) c ∧
          (r.page (some request)).Gives c (.ok (Page.of es raw.total request)) c ∧
          (Page.of es raw.total request).pages = raw.pages ∧
          List.Forall₂ (r.mapping.Builds (r.mapping.projected fields)) p.content es := by
  refine ⟨?_, fun id => h.gives_find_projected hne hmapped id, ?_⟩
  · have hproj : Sql.Projection.ofFields r.mapping.properties none = .ok .all := rfl
    obtain ⟨es, hes, hbuilt⟩ := h.gives_findBy_projected hne hmapped hq
    obtain ⟨unprojected, hunprojected, hwhole⟩ := h.gives_findBy_all hq
    refine ⟨t.rows q, es, unprojected, h.toReadable.gives_findBy hproj hq, hes, hbuilt, hunprojected, ?_⟩
    rw [Mapping.map_identityOf_of_builds hbuilt, Mapping.map_identityOf_of_builds hwhole]
  · rintro request rfl rfl hfields hdistinct
    exact h.gives_page_projected hne hmapped hfields hdistinct hq

end Projected

end Hydratable

/-! ### Flags with values that cannot be read -/

namespace Sample

/-- Flags that are known by integers, whatever else is stored of them. -/
private theorem hydratable_flags {records : List Record}
    (h : ∀ record ∈ records, ∃ n, Record.cell record "flag_id" = .int n) :
    Hydratable { database := { tables := [flagsOf records] } } flagRepository.mapping (flagsOf records) where
  toReadable := readable_flags records
  schema := keyedBy_flags.toWellFormed
  declared := by
    have hcolumns : ∀ n ∈ ["flag_id", "is_on"], n ∈ Storage.Sample.flags.columnNames := by decide
    exact columns_flags ▸ hcolumns
  distinct := by
    have hcolumns : ["flag_id", "is_on"].Nodup := by decide
    exact columns_flags ▸ hcolumns
  needsOnlyIdentity := by
    intro row id _ hget
    refine ⟨(id, row), ?_, rfl⟩
    show (row.get? "flag_id").map _ = _
    rw [show row.get? "flag_id" = some id from hget]
    rfl
  shown := by
    intro record hrecord
    obtain ⟨n, hn⟩ := h record hrecord
    have howned : Storage.ColumnType.integer.Owns (.int n) := trivial
    refine ⟨.int n, nofun, ?_⟩
    exact keyedBy_flags.get?_row_identity (fun _ hn => hn) keyedBy_flags.nodup_columnNames keyedBy_flags.identity_mem
      howned hn

end Sample

namespace Hydratable

/-- Of two flags the second one has a value that cannot be read; a projection to the values keeps both. -/
theorem projection_keeps_rows_of_flags :
    let t := Sample.flagsOf [
      OrderedMap.ofList [("flag_id", .int 1), ("is_on", .int 1)],
      OrderedMap.ofList [("flag_id", .int 2), ("is_on", .real 2.5)]]
    let c : Connection := { database := { tables := [t] } }
    let fields := FieldSet.ofList ["on"]
    Hydratable c Sample.flagRepository.mapping t ∧
      ∃ rows es, (Rows.findBy (Sample.flags false) none none none).Gives c (.ok rows) c ∧
        (Sample.flagRepository.findBy none none (some fields)).Gives c (.ok es) c ∧
        List.Forall₂ ((Sample.flags false).Builds ["flag_id", "is_on"]) rows es := by
  intro t c fields
  have h : Hydratable c Sample.flagRepository.mapping t := by
    refine Sample.hydratable_flags fun record hrecord => ?_
    obtain rfl | hrecord := List.mem_cons.1 hrecord
    · exact ⟨1, rfl⟩
    · obtain rfl := List.mem_singleton.1 hrecord
      exact ⟨2, rfl⟩
  have hmapped : ∀ p ∈ fields.names, Sample.flagRepository.mapping.properties.contains p := by decide
  have hq : Sample.flagRepository.mapping.selection .all none none {} = .ok ({ table := "flags" }, {}) := rfl
  have hnames : Sample.flagRepository.mapping.projected fields = ["flag_id", "is_on"] := by decide
  obtain ⟨⟨rows, es, -, hrows, hes, hbuilt, -⟩, -, -⟩ := h.projection_keeps_rows rfl hmapped hq
  rw [hnames] at hbuilt
  exact ⟨h, rows, es, hrows, hes, hbuilt⟩

/-- The value of the only flag cannot be read: the entity of a projection to it is built from the identity alone. -/
theorem findBy_lacks_unreadable :
    let t := Sample.flagsOf [OrderedMap.ofList [("flag_id", .int 1), ("is_on", .real 2.5)]]
    let c : Connection := { database := { tables := [t] } }
    let fields := FieldSet.ofList ["on"]
    Hydratable c Sample.flagRepository.mapping t ∧
      Sample.flagRepository.mapping.projected fields = ["flag_id", "is_on"] ∧
      ∃ e, (Sample.flagRepository.findBy none none (some fields)).Gives c (.ok [e]) c ∧
        ∀ part, Sample.flagRepository.mapping.ofRow? part = some e → part.keys = ["flag_id"] := by
  intro t c fields
  have h : Hydratable c Sample.flagRepository.mapping t := by
    refine Sample.hydratable_flags fun record hrecord => ?_
    obtain rfl := List.mem_singleton.1 hrecord
    exact ⟨1, rfl⟩
  have hmapped : ∀ p ∈ fields.names, Sample.flagRepository.mapping.properties.contains p := by decide
  have hq : Sample.flagRepository.mapping.selection .all none none {} = .ok ({ table := "flags" }, {}) := rfl
  have hnames : Sample.flagRepository.mapping.projected fields = ["flag_id", "is_on"] := by decide
  obtain ⟨es, hes, hbuilt⟩ := h.gives_findBy_projected rfl hmapped hq
  have hrows : t.rows { table := "flags" } = t.records.map (t.schema.row t.schema.columnNames) := by
    rw [t.rows_of_plain rfl rfl, (Table.Singles.of_records rfl rfl : t.Singles none [] _ []).matching]
    rfl
  rw [hrows, hnames] at hbuilt
  cases hbuilt with
  | @cons _ e _ _ hfirst hrest =>
    cases hrest
    refine ⟨h, hnames, e, hes, fun part he => ?_⟩
    obtain ⟨part', he', hkeys, -⟩ := hfirst
    -- an entity keeps the row that it was made of
    have hsame : part = part' := by
      obtain ⟨_, -, rfl⟩ := Option.map_eq_some_iff.1 he
      obtain ⟨_, -, hpair⟩ := Option.map_eq_some_iff.1 he'
      exact (congrArg Prod.snd hpair).symm
    rw [hsame, hkeys]
    decide +kernel

end Hydratable

end CriteriaStore
