import CriteriaStore.Proofs.Repository.Paging

/-!
# Totals

A total counts the identities of the selected records, and the rows are all of these records. So a total falls short of
the rows by the records that lack an identity (`count_add_unidentified`), and a page without rows to count has no number
of pages, whatever it holds (`pages_single`). Each call tells the same total for the same filter
(`Readable.totals_of_identified`).
-/

namespace CriteriaStore

open Storage (Connection Table Database Record)

/-- Rows of the tags, each under its label. -/
def Sample.labels : Mapping (Scalar × Row) where
  table := "tags"
  identity := "label"
  properties := tags.properties
  identityOf := Prod.fst
  toRow := Prod.snd
  ofRow? row := (row.get? "label").map fun id => (id, row)

namespace Storage.Table

/-- The selected records that have nothing in a column. -/
def unidentified (t : Table) (column : String) (condition : Option Sql.Where) : List Record :=
  (t.matching condition).filter fun r => (t.schema.cell r column).isNull

variable (t : Table) (column : String) (condition : Option Sql.Where)

theorem count_add_unidentified :
    t.count column condition + (t.unidentified column condition).length = (t.matching condition).length := by
  have hsplit := (t.matching condition).length_eq_length_filter_add fun r => (t.schema.cell r column).isNull
  rw [Nat.add_comm] at hsplit
  exact hsplit.symm

/-- Every selected record is counted when, and only when, none of them lacks a value. -/
theorem count_eq_length_matching_iff :
    t.count column condition = (t.matching condition).length ↔ t.unidentified column condition = [] := by
  have hsum := t.count_add_unidentified column condition
  rw [← List.length_eq_zero_iff]
  omega

end Storage.Table

/-- One page has room for all rows, and none is needed for no row. -/
theorem pageCount_of_le {size total : Nat} (hsize : 1 ≤ size) (h : total ≤ size) :
    pageCount size total = if total = 0 then 0 else 1 := by
  have hle : pageCount size total ≤ 1 := (pageCount_le_iff hsize).2 (by omega)
  have hlt : 0 < pageCount size total ↔ 0 < total := by
    rw [lt_pageCount_iff hsize, Nat.zero_mul]
  split <;> omega

/-- A page that holds everything is the only one when a row is counted, and no page at all when none is. -/
theorem Page.pages_single {α : Type} {content : List α} {total : Nat} (hword : content.length < UInt64.size)
    (htotal : total ≤ content.length) :
    (Page.single content (UInt64.ofNat total)).pages.toNat = if total = 0 then 0 else 1 := by
  have hlength : (UInt64.ofNat content.length).toNat = content.length := UInt64.toNat_ofNat_of_lt' hword
  have hsize : (max (UInt64.ofNat content.length) 1).toNat = max content.length 1 := by
    have hone : (1 : UInt64).toNat = 1 := rfl
    simp only [UInt64.max_def, UInt64.le_iff_toNat_le, hlength, hone]
    split <;> omega
  have htotal' : (UInt64.ofNat total).toNat = total := UInt64.toNat_ofNat_of_lt' (by omega)
  show (divCeil _ _).toNat = _
  rw [toNat_divCeil _ (by omega), hsize, htotal', pageCount_of_le (by omega) (by omega)]

namespace Readable

variable {ε : Type} {c : Connection} {m : Mapping ε} {t : Table} {projection : Sql.Projection}
  {filter : Option Filter} {sort : Option SortOrder} {fields : Option FieldSet} {condition : Option Sql.Where}
  {q : Sql.Select} {b : Bindings}

theorem gives_count (h : Readable c m t) (hcondition : m.condition filter {} = .ok (condition, b)) :
    (Rows.count m filter).Gives c (.ok (t.count m.identity condition)) c := by
  unfold Rows.count
  rw [hcondition]
  refine (Action.gives_resolve (condition, b) c).bind ((Action.gives_built _ _ _ _).bind ?_)
  exact Action.gives_count (h.count_eq_ok hcondition)

/-- What is counted of a filter falls short of the rows that it finds by those of the records that lack an identity, so
that it is all of them when, and only when, no such record is found. It is the total of every page of the filter, that of
a missing request included, which holds all rows and tells one page when a row is counted and none otherwise. -/
theorem totals_of_identified (h : Readable c m t)
    (hproj : Sql.Projection.ofFields m.properties fields = .ok projection)
    (hq : m.selection projection filter sort {} = .ok (q, b)) :
    let rows := t.rows q
    let total := t.count m.identity q.condition
    (Rows.findBy m filter sort fields).Gives c (.ok rows) c ∧ (Rows.count m filter).Gives c (.ok total) c ∧
      total + (t.unidentified m.identity q.condition).length = rows.length ∧
      (total = rows.length ↔ t.unidentified m.identity q.condition = []) ∧
      (∀ r : PageRequest, r.filter = filter → r.sort = sort → r.fields = fields → r.distinct = none →
        ∃ p, (Rows.page m (some r)).Gives c (.ok p) c ∧ p.total = UInt64.ofNat total) ∧
      (filter = none → sort = none → fields = none →
        ∃ p, (Rows.page m none).Gives c (.ok p) c ∧ p.content = rows ∧ p.total = UInt64.ofNat total ∧
          (rows.length < UInt64.size → p.pages.toNat = if total = 0 then 0 else 1)) := by
  intro rows total
  obtain ⟨condition, terms, hcondition, -, hplain⟩ := Mapping.selection_eq_ok.1 hq
  have hlength : rows.length = (t.matching q.condition).length := by
    apply Table.length_rows
    · rw [hplain]
    · rw [hplain]
    · rw [hplain]
      exact (Sql.Projection.of_ofFields hproj).1
  have hsum : total + (t.unidentified m.identity q.condition).length = rows.length := by
    rw [hlength]
    exact t.count_add_unidentified m.identity q.condition
  have hle : total ≤ rows.length := Nat.le.intro hsum
  have hfind := h.gives_findBy hproj hq
  have hcount := h.gives_count hcondition
  rw [show condition = q.condition by rw [hplain]] at hcount
  refine ⟨hfind, hcount, hsum, ?_, ?_, ?_⟩
  · rw [hlength, t.count_eq_length_matching_iff]
  · rintro r rfl rfl rfl hr
    exact ⟨_, h.gives_page hr hproj hq, rfl⟩
  · rintro rfl rfl rfl
    refine ⟨_, hfind.bind (hcount.bind (Action.gives_pure _ _)), rfl, rfl, fun hword => ?_⟩
    exact Page.pages_single hword hle

private theorem readable_labels (records : List Record) :
    Readable { database := Sample.notebook records [] } Sample.labels
      { schema := Storage.Sample.tags, records } :=
  .of_declared (Database.readable_of_writable (Sample.writable_tags records [])) (by decide +kernel)
    (by decide +kernel : ∀ column ∈ Sample.labels.properties.columns, (Storage.Sample.tags.column? column).isSome)

/-- Of two tags known by their labels, one has none: the total is one less than the rows. -/
theorem totals_of_identified_of_labels :
    let unlabelled := OrderedMap.ofList [("tag_id", Storage.Cell.text "a"), ("label", .null)]
    let labelled := OrderedMap.ofList [("tag_id", Storage.Cell.text "b"), ("label", .text "x")]
    let c : Connection := { database := Sample.notebook [unlabelled, labelled] [] }
    ∃ (rows : List Row) (p : Page Row), (Rows.findBy Sample.labels none none none).Gives c (.ok rows) c ∧
      rows.length = 2 ∧ (Rows.count Sample.labels none).Gives c (.ok 1) c ∧
      (Rows.page Sample.labels none).Gives c (.ok p) c ∧ p.total = 1 ∧ p.pages.toNat = 1 := by
  intro unlabelled labelled c
  let t : Table := { schema := Storage.Sample.tags, records := [unlabelled, labelled] }
  have hselection : Sample.labels.selection .all none none {} = .ok ({ table := "tags" }, {}) := rfl
  have hproj : Sql.Projection.ofFields Sample.labels.properties none = .ok .all := rfl
  obtain ⟨hfind, hcount, -, -, -, hpage⟩ := totals_of_identified (readable_labels t.records) hproj hselection
  have htotal : t.count "label" none = 1 := by
    rw [t.count_eq]
    decide +kernel
  have hlength : (t.rows { table := "tags" }).length = 2 := by
    rw [Table.length_rows rfl rfl rfl, t.length_matching]
    decide +kernel
  obtain ⟨p, hgives, -, hp, hpages⟩ := hpage rfl rfl rfl
  rw [show t.count Sample.labels.identity none = 1 from htotal] at hcount hp hpages
  exact ⟨_, p, hfind, hlength, hcount, hgives, hp, hpages (by rw [hlength]; decide)⟩

/-- The only tag has no label: a page holds it, and tells no row and no page. -/
theorem page_single_of_unlabelled :
    let unlabelled := OrderedMap.ofList [("tag_id", Storage.Cell.text "a"), ("label", .null)]
    let c : Connection := { database := Sample.notebook [unlabelled] [] }
    ∃ (rows : List Row) (p : Page Row), (Rows.findBy Sample.labels none none none).Gives c (.ok rows) c ∧
      rows.length = 1 ∧ (Rows.count Sample.labels none).Gives c (.ok 0) c ∧
      (Rows.page Sample.labels none).Gives c (.ok p) c ∧ p.content = rows ∧ p.total = 0 ∧ p.pages.toNat = 0 := by
  intro unlabelled c
  let t : Table := { schema := Storage.Sample.tags, records := [unlabelled] }
  have h : Readable c Sample.labels t := readable_labels t.records
  have hselection : Sample.labels.selection .all none none {} = .ok ({ table := "tags" }, {}) := rfl
  have hproj : Sql.Projection.ofFields Sample.labels.properties none = .ok .all := rfl
  have hcondition : Sample.labels.condition none {} = .ok (none, {}) := rfl
  have hfind := h.gives_findBy hproj hselection
  have hcount := h.gives_count hcondition
  have htotal : t.count "label" none = 0 := by
    rw [t.count_eq]
    decide +kernel
  have hlength : (t.rows { table := "tags" }).length = 1 := by
    rw [Table.length_rows rfl rfl rfl, t.length_matching]
    decide +kernel
  rw [show Sample.labels.identity = "label" from rfl, htotal] at hcount
  refine ⟨_, _, hfind, hlength, hcount, hfind.bind (hcount.bind (Action.gives_pure _ _)), rfl, rfl, ?_⟩
  exact Page.pages_single (by rw [hlength]; decide) (Nat.zero_le _)

end Readable

end CriteriaStore
