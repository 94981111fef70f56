import CriteriaStore.Proofs.Repository.Upserting

/-!
# Outcomes of updates

An update writes a row over the one record that an identity names, or tells that there is none
(`Updatable.update_outcome`). The number of records that storage counts does not decide which it was: it is nothing when the
values were stored already and only changes are counted, and nothing is counted when the identity is the only column. Then a
look-up decides, which sees a record by its row.

A record of which the row shows nothing is not seen (`Mapping.Overlooks`), and the update calls it missing
(`Updatable.update_misses_unreadable`).
-/

namespace CriteriaStore

open Storage (Connection Table Database Schema Record)

variable {ε : Type}

namespace Mapping

/-- Whether an update that writes one record over another does not see that it did: none is counted, as there is nothing to
write or nothing changes, and the row of the new one is empty. -/
def Overlooks (m : Mapping ε) (d : Database) (s : Schema) (r r' : Record) : Prop :=
  (m.written false = [] ∨
    d.counting = .changed ∧ ∀ column ∈ s.columns, (Record.cell r column.name).same (Record.cell r' column.name)) ∧
  (s.row s.columnNames r').isEmpty

/-- Whether a record shows something that an update does not write over: the identity, or a column that is not mapped. -/
def ShowsUnwritten (m : Mapping ε) (s : Schema) (r : Record) : Prop :=
  ∃ column ∈ s.columns, (column.name ∉ m.properties.columns ∨ column.name = m.identity) ∧
    (column.type.read? (Record.cell r column.name)).isSome

variable {m : Mapping ε} {d : Database} {t : Table} {s : Schema} {id : Scalar} {row : Row} {r r' : Record}
  {before after : List Record}

/-- A record that shows what is not written is not overlooked. -/
theorem ShowsUnwritten.not_overlooks (h : m.ShowsUnwritten s r) (hs : s.WellFormed) (hrewrites : m.Rewrites s row r r') :
    ¬m.Overlooks d s r r' := by
  rintro ⟨-, hempty⟩
  obtain ⟨column, hcolumn, hunwritten, hread⟩ := h
  rw [← hrewrites.kept column.name hunwritten] at hread
  rw [hs.isEmpty_row hcolumn hread] at hempty
  cases hempty

theorem assigned_eq_nil : m.assigned row false = [] ↔ m.written false = [] := List.map_eq_nil_iff

/-- When no record is counted although there is one. -/
theorem countedIn_eq_zero (h : t.Singles (some (m.hasIdentity id)) before r after) :
    m.countedIn d t id row = 0 ↔ m.written false = [] ∨ d.counting = .changed ∧ ∀ column ∈ t.schema.columns,
      (Record.cell r column.name).same (Record.cell
        (Table.assign (t.schema.assigns (Database.cells (m.assigned row false))) r) column.name) := by
  unfold countedIn
  by_cases hnothing : m.assigned row false = []
  · rw [if_pos hnothing]
    exact iff_of_true rfl (.inl (assigned_eq_nil.1 hnothing))
  · rw [if_neg hnothing, or_iff_right (assigned_eq_nil.not.1 hnothing)]
    unfold Database.affectedBy
    rw [h.filter, List.length_eq_zero_iff, List.filter_eq_nil_iff, List.forall_mem_singleton]
    cases d.counting with
    | selected => simp
    | changed => simp

end Mapping

namespace Updatable

variable {c : Connection} {m : Mapping ε} {t : Table} {id : Scalar} {row : Row} {r : Record} {before after : List Record}

/-- An update of the one record with the identity writes the row over it, and then sees it or not. -/
private theorem gives_update_of_singles (h : Updatable c m t) (hcomplete : m.lacking? row false = none)
    (hsingles : t.Singles (some (m.hasIdentity id)) before r after) :
    ∃ r' outcome, m.Rewrites t.schema row r r' ∧
      (Rows.update m id row).Gives c (.ok outcome) (c.replace { t with records := before ++ r' :: after } none) ∧
      (outcome = .missing ↔ m.Overlooks c.database t.schema r r') := by
  let r' := Table.assign (t.schema.assigns (Database.cells (m.assigned row false))) r
  have hschema : (m.updatedIn t id row).schema = t.schema := rfl
  have hfound := (h.readable_replace hschema none).gives_exists_unless_empty id
  rw [(h.singles_updatedIn hsingles row).matching, List.head?_cons, Option.any_some] at hfound
  have hgives := h.gives_update hcomplete hfound
  have hnext : m.updatedIn t id row = { t with records := before ++ r' :: after } := hsingles.changed _
  rw [hnext] at hgives
  refine ⟨r', _, h.rewrites_assign row r, hgives, ?_⟩
  unfold Mapping.Overlooks
  rw [← Mapping.countedIn_eq_zero hsingles]
  simp [Nat.pos_iff_ne_zero, r']

/-- A row that lacks a value for a column to write is refused with the first of these columns, in the order of the mapping.
With any other row, an identity that no record has is told to be missing, and nothing changes. The one record that has the
identity is written over: where it stands, in the mapped columns besides the identity and nowhere else, while all other
records stay as they are. It counts as updated unless it is overlooked, and a record that shows something that is not
written never is. -/
theorem update_outcome (h : Updatable c m t) (id : Scalar) (row : Row) :
    (∀ column, m.lacking? row false = some column →
      (Rows.update m id row).Gives c (.error (.missingColumnValue m.table column)) c) ∧
    (m.lacking? row false = none →
      ((∀ r ∈ t.records, ¬m.Names t id r) → (Rows.update m id row).Gives c (.ok .missing) c) ∧
      ∀ r ∈ t.records, m.Names t id r → ∃ before r' after outcome,
        t.records = before ++ r :: after ∧ (∀ other ∈ before ++ after, ¬m.Names t id other) ∧
        m.Rewrites t.schema row r r' ∧
        (Rows.update m id row).Gives c (.ok outcome) (c.replace { t with records := before ++ r' :: after } none) ∧
        (outcome = .missing ↔ m.Overlooks c.database t.schema r r') ∧
        (m.ShowsUnwritten t.schema r → outcome = .updated)) := by
  refine ⟨fun column hlacking => ?_, fun hcomplete => ⟨fun hnone => ?_, fun r hr hnames => ?_⟩⟩
  · unfold Rows.update
    rw [Rows.assignments_eq_error hlacking]
    exact (Action.gives_lift _ c).bind_error
  · exact h.gives_update_missing h.toDeclared hcomplete hnone
  · obtain hnone | ⟨before, single, after, hsingles⟩ := h.toAddresses.cases id
    · exact absurd hnames (Mapping.selects_hasIdentity_eq_false.1 (hnone r hr))
    · obtain rfl : r = single := by
        have hmem : r ∈ t.records.filter (Storage.selects t.schema (some (m.hasIdentity id))) :=
          List.mem_filter.2 ⟨hr, Mapping.selects_hasIdentity.2 hnames⟩
        rw [hsingles.filter] at hmem
        exact List.mem_singleton.1 hmem
      obtain ⟨r', outcome, hrewrites, hgives, houtcome⟩ := h.gives_update_of_singles hcomplete hsingles
      refine ⟨before, r', after, outcome, hsingles.records, ?_, hrewrites, hgives, houtcome, fun hshows => ?_⟩
      · exact fun other hother => Mapping.selects_hasIdentity_eq_false.1 (hsingles.others other hother)
      · cases outcome with
        | updated => rfl
        | missing => exact absurd (houtcome.1 rfl) (hshows.not_overlooks h.schema hrewrites)

/-- Where only changes are counted, a tag with the label that it has is updated, a tag that is not stored is missing, and
one without a label is refused. -/
theorem update_outcome_of_tags :
    let c : Connection := { database := { tables := [Sample.tagTable], counting := .changed } }
    (∃ c', (Rows.update Sample.tags (.text "a") (Sample.tag "a" "first").2).Gives c (.ok .updated) c') ∧
      (Rows.update Sample.tags (.text "b") (Sample.tag "b" "first").2).Gives c (.ok .missing) c ∧
      (Rows.update Sample.tags (.text "a") (Sample.unlabelled "a").2).Gives c
        (.error (.missingColumnValue "tags" "label")) c := by
  intro c
  have h : Updatable c Sample.tags Sample.tagTable := (Sample.serves_tags_of_counting .changed).updatable
  have hcomplete (id label : String) : Sample.tags.lacking? (Sample.tag id label).2 false = none :=
    (Sample.carries_tag id label).complete.lacking? false
  refine ⟨?_, ?_, (update_outcome h (.text "a") (Sample.unlabelled "a").2).1 "label" (by decide +kernel)⟩
  · obtain ⟨before, r', after, outcome, -, -, -, hgives, -, hupdated⟩ :=
      ((update_outcome h (.text "a") (Sample.tag "a" "first").2).2 (hcomplete "a" "first")).2 _ List.mem_cons_self
        ((Sample.names_tag_iff List.mem_cons_self).2 rfl)
    obtain rfl := hupdated ⟨{ name := "tag_id", type := .text }, List.mem_cons_self, .inr rfl, rfl⟩
    exact ⟨_, hgives⟩
  · refine ((update_outcome h (.text "b") (Sample.tag "b" "first").2).2 (hcomplete "b" "first")).1 fun r hr => ?_
    exact (Sample.names_tag_iff hr).not.2 (by decide)

end Updatable

/-- An update without a column to write comes down to a look-up. -/
theorem Readable.gives_update_of_written_eq_nil {c : Connection} {m : Mapping ε} {t : Table} (h : Readable c m t)
    (hnothing : m.written false = []) (id : Scalar) (row : Row) :
    (Rows.update m id row).Gives c (.ok (if
      (t.matching (some (m.hasIdentity id))).head?.any fun r => !(t.schema.row t.schema.columnNames r).isEmpty
      then .updated else .missing)) c := by
  have hcomplete : m.lacking? row false = none := by
    unfold Mapping.lacking?
    rw [hnothing]
    rfl
  have hgives := Rows.gives_update_of_write hcomplete
    (fun hsome => absurd (Mapping.assigned_eq_nil.2 hnothing) hsome) (fun _ => ⟨rfl, rfl⟩) (h.gives_exists_unless_empty id)
  simpa only [Nat.lt_irrefl, false_or] using hgives

/-! ### Records that show nothing -/

namespace Sample

/-- A mark of two and a half. -/
def mark : Record := OrderedMap.ofList [("mark", .real 2.5)]

/-- The table of the marks, which are declared to be integers, with that mark. -/
def markTable : Table where
  schema := {
    name := "marks"
    columns := [{ name := "mark", type := .integer }]
    key := "mark"
    keyKind := .natural }
  records := [mark]

/-- A database of marks only. -/
def markConnection : Connection := { database := { tables := [markTable] } }

private theorem writable_marks : markConnection.database.writable "marks" = .ok markTable :=
  Database.writable_first markTable [] .selected (by decide +kernel)

theorem updatable_marks : Updatable markConnection (single "marks" "mark") markTable where
  toReadable := .of_declared (Database.readable_of_writable writable_marks) (by decide +kernel) (by decide +kernel)
  writable := writable_marks
  named := List.nodup_singleton _
  apart := List.pairwise_singleton _ _
  consistent := by decide
  schema := by
    refine ⟨List.pairwise_singleton _ _, ?_⟩
    have hnames : ∀ column ∈ markTable.schema.columns, '\x00' ∉ column.name.toList := by decide
    exact fun column hcolumn => Schema.noZero_of_notMem (hnames column hcolumn)
  mapped := by decide
  identified := List.mem_cons_self
  sound := by
    intro before r after hsplit
    obtain ⟨rfl, hrest⟩ | ⟨-, hrest⟩ := List.append_eq_singleton_iff.1 hsplit.symm
    · obtain ⟨rfl, rfl⟩ := List.cons.inj hrest
      decide +kernel
    · cases hrest
  unconstrained := by
    intro d hd _ hne
    obtain rfl := List.mem_singleton.1 hd
    exact absurd rfl hne

/-- The version of the database, under itself. -/
theorem readable_version :
    Readable Storage.Sample.connection (single "pragma_user_version" "user_version") Storage.Catalog.userVersion := by
  -- what the listing of the tables lists does not matter for its names
  have hother {t : Table} (ht : t.schema.name = "sqlite_master") :
      ¬Storage.Catalog.answersTo t "pragma_user_version" := by
    unfold Storage.Catalog.answersTo
    rw [ht]
    decide +kernel
  have hfound : (Storage.Sample.connection.database.listings.find? fun t =>
      Storage.Catalog.answersTo t "pragma_user_version") = some Storage.Catalog.userVersion := by
    unfold Database.listings Storage.Catalog.listings
    rw [List.find?_cons_of_neg, List.find?_cons_of_neg, List.find?_cons_of_pos]
    · exact Bool.or_eq_true_iff.2 (.inl (Schema.sameName_refl _))
    · decide +kernel
    · exact hother rfl
  exact .of_declared (Database.readable_of_listed hfound) (by decide +kernel) (by decide +kernel)

end Sample

/-- A record that shows nothing is missing for an update that writes nothing, though it is the only one. -/
private theorem Readable.gives_update_hidden {c : Connection} {m : Mapping ε} {t : Table} (h : Readable c m t)
    (hnothing : m.written false = []) {id : Scalar} {r : Record} (hrecords : t.records = [r]) (hnames : m.Names t id r)
    (hhidden : (t.schema.row t.schema.columnNames r).isEmpty) (row : Row) :
    (Rows.update m id row).Gives c (.ok .missing) c := by
  have hgives := h.gives_update_of_written_eq_nil hnothing id row
  rw [(Table.Singles.of_records hrecords (Mapping.selects_hasIdentity.2 hnames)).matching, List.head?_cons,
    Option.any_some, hhidden] at hgives
  exact hgives

/-- The marks may be updated, and one is stored under two and a half, which is no integer and is not shown: an update of it
has nothing to write, and calls it missing. So does an update of the version of a database, which a filter shows. -/
theorem Updatable.update_misses_unreadable :
    let marks := Sample.single "marks" "mark"
    let version := Sample.single "pragma_user_version" "user_version"
    let c := Storage.Sample.connection
    (Updatable Sample.markConnection marks Sample.markTable ∧
      (∃ r ∈ Sample.markTable.records, marks.Names Sample.markTable (.float 2.5) r) ∧
      (Rows.update marks (.float 2.5) ∅).Gives Sample.markConnection (.ok .missing) Sample.markConnection) ∧
    (∃ r ∈ Storage.Catalog.userVersion.records, version.Names Storage.Catalog.userVersion (.int 0) r) ∧
    (∃ row, (Rows.findBy version none none none).Gives c (.ok [row]) c) ∧
    (Rows.update version (.int 0) ∅).Gives c (.ok .missing) c := by
  intro marks version c
  have hmark : marks.Names Sample.markTable (.float 2.5) Sample.mark := by decide +kernel
  let record : Record := OrderedMap.ofList [("rowid", .int 1), ("user_version", .int 0)]
  have hversion : version.Names Storage.Catalog.userVersion (.int 0) record := by decide +kernel
  refine ⟨⟨Sample.updatable_marks, ⟨Sample.mark, List.mem_cons_self, hmark⟩, ?_⟩,
    ⟨record, List.mem_cons_self, hversion⟩, ?_, ?_⟩
  · exact Sample.updatable_marks.toReadable.gives_update_hidden (by decide) rfl hmark (by decide +kernel) ∅
  · have hselection : version.selection .all none none {} = .ok ({ table := "pragma_user_version" }, {}) := rfl
    have hproj : Sql.Projection.ofFields version.properties none = .ok .all := rfl
    have hfindBy := Sample.readable_version.gives_findBy hproj hselection
    rw [Table.rows_of_plain _ rfl rfl, (Table.Singles.of_records rfl rfl).matching] at hfindBy
    exact ⟨_, hfindBy⟩
  · exact Sample.readable_version.gives_update_hidden (by decide) rfl hversion (by decide +kernel) ∅

end CriteriaStore
