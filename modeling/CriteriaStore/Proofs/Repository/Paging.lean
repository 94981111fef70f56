import CriteriaStore.Proofs.Criteria.Paging
import CriteriaStore.Proofs.Repository.Sample
import CriteriaStore.Proofs.Repository.Selecting

/-!
# Pages of a repository

A page is selected by row numbers and counted apart. Both agree with the selection of all rows: a stretch is cut from
the same rows in the same order (`rows_stretch`), and where no identity is missing, the identities are as many as the
rows (`count_eq_length_rows`). So the pages of one size make up the whole selection (`Readable.pages_partition`).
-/

namespace CriteriaStore

open Storage (Connection Table Database)

namespace Storage.Table

variable {t : Table} {q : Sql.Select}

/-- A stretch of a selection is cut from the rows of all of it. -/
theorem rows_stretch (t : Table) (hlimit : q.limit = none) (hoffset : q.offset = none) (size offset : UInt64) :
    t.rows { q with limit := some size, offset := some offset } = ((t.rows q).drop offset.toNat).take size.toNat := by
  have hsame : t.ordered { q with limit := some size, offset := some offset } = t.ordered q := rfl
  unfold rows
  rw [hlimit, hoffset, hsame]
  simp [stretch]

/-- A selection with repeats has as many rows as there are matching records. -/
theorem length_rows (hlimit : q.limit = none) (hoffset : q.offset = none) (hd : isDistinct q.projection = false) :
    (t.rows q).length = (t.matching q.condition).length := by
  unfold rows ordered
  rw [hlimit, hoffset, hd]
  simp only [stretch, Option.elim, List.drop_zero, List.length_map, List.length_mergeSort, Bool.false_eq_true, if_false]
  split
  · exact List.length_reverse
  · rfl

/-- Where no record lacks a value in a column, as many values are counted as rows are selected. -/
theorem count_eq_length_rows {column : String} (hlimit : q.limit = none) (hoffset : q.offset = none)
    (hd : isDistinct q.projection = false) (hnull : ∀ r ∈ t.records, (t.schema.cell r column).isNull = false) :
    t.count column q.condition = (t.rows q).length := by
  have hall : ∀ r ∈ t.matching q.condition, !(t.schema.cell r column).isNull := by
    intro r hr
    have hmem := t.scan_perm.mem_iff.1 (List.mem_filter.1 hr).1
    simp [hnull r hmem]
  unfold count
  rw [List.filter_eq_self.2 hall, length_rows hlimit hoffset hd]

end Storage.Table

namespace Readable

variable {ε : Type} {c : Connection} {m : Mapping ε} {t : Table} {projection : Sql.Projection}
  {filter : Option Filter} {sort : Option SortOrder} {fields : Option FieldSet} {q : Sql.Select} {b : Bindings}

/-- Where no identity is missing, a filter, a sort order and fields that compile give all rows at once or page by page:
every page of one size tells the number of all rows and of all pages, the pages up to that number may be asked for, and
their contents are all rows, cut into full pages and one last page that is not empty. -/
theorem pages_partition (h : Readable c m t) (hid : ∀ r ∈ t.records, (t.schema.cell r m.identity).isNull = false)
    (hproj : Sql.Projection.ofFields m.properties fields = .ok projection)
    (hq : m.selection projection filter sort {} = .ok (q, b)) :
    (Rows.findBy m filter sort fields).Gives c (.ok (t.rows q)) c ∧
      ∀ size : UInt64, 1 ≤ size.toNat → pageCount size.toNat (t.rows q).length * size.toNat ≤ maxRow.toNat →
        ∃ content : Nat → List Row, Paginates size.toNat (t.rows q) content ∧
          (∀ r : PageRequest, r.size = size → r.filter = filter → r.sort = sort → r.fields = fields →
            r.distinct = none →
            ∃ p, (Rows.page m (some r)).Gives c (.ok p) c ∧ p.content = content r.number.toNat ∧
              p.total.toNat = (t.rows q).length ∧ p.pages.toNat = pageCount size.toNat (t.rows q).length) ∧
          ∀ number : UInt64, 1 ≤ number.toNat → number.toNat ≤ pageCount size.toNat (t.rows q).length →
            PageRequest.accepts number size := by
  obtain ⟨condition, terms, -, -, hplain⟩ := Mapping.selection_eq_ok.1 hq
  have hlimit : q.limit = none := by rw [hplain]
  have hoffset : q.offset = none := by rw [hplain]
  have hdistinct : Storage.isDistinct q.projection = false := by
    rw [hplain]
    exact (Sql.Projection.of_ofFields hproj).1
  refine ⟨h.gives_findBy hproj hq, fun size hsize hfit => ?_⟩
  refine ⟨pageOf size.toNat (t.rows q), paginates_pageOf hsize _, ?_, ?_⟩
  · rintro r rfl rfl rfl rfl hr
    have htotal : (UInt64.ofNat (t.count m.identity q.condition)).toNat = (t.rows q).length := by
      have hcover := le_pageCount_mul hsize (t.rows q).length
      -- full pages end within the signed words, so the count of their rows does not wrap
      have hword : (t.rows q).length < UInt64.size := by
        have hmax : maxRow.toNat < UInt64.size := maxRow.toNat_lt
        omega
      rw [Table.count_eq_length_rows hlimit hoffset hdistinct hid]
      exact UInt64.toNat_ofNat_of_lt' hword
    refine ⟨_, h.gives_page hr hproj hq, ?_, htotal, ?_⟩
    · show t.rows _ = _
      rw [Table.rows_stretch t hlimit hoffset, r.toNat_offset]
      rfl
    · show (divCeil _ r.size).toNat = _
      rw [toNat_divCeil _ hsize, htotal]
  · intro number hnumber hle
    have hmul := Nat.mul_le_mul_right size.toNat hle
    exact PageRequest.accepts_iff.2 ⟨hnumber, hsize, by omega⟩

/-- Three tags in pages of two, sorted by their labels, the last first. -/
theorem pages_partition_of_tags :
    let records := ["a", "b", "c"].map fun id => OrderedMap.ofList [("tag_id", Storage.Cell.text id), ("label", .text id)]
    let c : Connection := { database := Sample.notebook records [] }
    let sort : Option SortOrder := some (({} : SortOrder).set "label" .desc)
    ∃ rows content, (Rows.findBy Sample.tags none sort none).Gives c (.ok rows) c ∧ rows.length = 3 ∧
      Paginates 2 rows content ∧
      ∀ r : PageRequest, r.size = 2 → r.filter = none → r.sort = sort → r.fields = none → r.distinct = none →
        ∃ p, (Rows.page Sample.tags (some r)).Gives c (.ok p) c ∧ p.content = content r.number.toNat ∧
          p.total.toNat = 3 ∧ p.pages.toNat = 2 := by
  intro records c sort
  let t : Table := { schema := Storage.Sample.tags, records }
  let q : Sql.Select := { table := "tags", order := [⟨"label", .desc⟩] }
  have hreadable : Readable c Sample.tags t :=
    .of_declared (Database.readable_of_writable (Sample.writable_tags records [])) (by decide +kernel) (by decide +kernel)
  have hid : ∀ r ∈ t.records, (t.schema.cell r Sample.tags.identity).isNull = false := by decide +kernel
  have hproj : Sql.Projection.ofFields Sample.tags.properties none = .ok .all := rfl
  have hq : Sample.tags.selection .all none sort {} = .ok (q, {}) := rfl
  have hlength : (t.rows q).length = 3 := by
    have hall : t.matching none = t.scan := List.filter_eq_self.2 fun _ _ => rfl
    rw [Table.length_rows rfl rfl rfl, hall]
    exact t.scan_perm.length_eq
  obtain ⟨hfind, hpages⟩ := pages_partition hreadable hid hproj hq
  obtain ⟨content, hcontent, hgives, -⟩ := hpages 2 (by decide) (by rw [hlength]; decide)
  refine ⟨t.rows q, content, hfind, hlength, hcontent, ?_⟩
  rw [hlength] at hgives
  exact hgives

end Readable

end CriteriaStore
