import CriteriaStore.Proofs.Repository.Serving
import CriteriaStore.Repository.Entities
import CriteriaStore.Storage.Sample

/-!
# Sample mappings

Rows of tags under their identities, in a database that holds one tag. Notes are about tags, and a database with both
loses its references when the tags are removed alone.
-/

namespace CriteriaStore.Sample

open Storage (Connection Table ColumnType Cell Record Schema Database)

/-- Rows of the tags, each under the identity that it has. -/
def tags : Mapping (Scalar × Row) where
  table := "tags"
  identity := "tag_id"
  properties := OrderedMap.ofList [("id", "tag_id"), ("label", "label")]
  identityOf := Prod.fst
  toRow := Prod.snd
  ofRow? row := (row.get? "tag_id").map fun id => (id, row)

/-- The repository of the tags, which are flattened as they are mapped. -/
def repository : EntityRepository (Scalar × Row) := ⟨tags, .mapped, "id", rfl⟩

/-- A tag with its label. -/
def tag (id label : String) : Scalar × Row :=
  (.text id, OrderedMap.ofList [("tag_id", .text id), ("label", .text label)])

/-- A tag without a label. -/
def unlabelled (id : String) : Scalar × Row := (.text id, OrderedMap.ofList [("tag_id", .text id)])

/-- The table of the tags with one tag. -/
def tagTable : Table where
  schema := Storage.Sample.tags
  records := [OrderedMap.ofList [("tag_id", .text "a"), ("label", .text "first")]]

/-- A database of tags only. -/
def connection : Connection := { database := { tables := [tagTable] } }

/-- Rows of the flags, each under the identity that it has. New ones may be numbered by storage. -/
def flags (generatesIdentity : Bool) : Mapping (Scalar × Row) where
  table := "flags"
  identity := "flag_id"
  properties := OrderedMap.ofList [("id", "flag_id"), ("on", "is_on")]
  generatesIdentity
  identityOf := Prod.fst
  toRow := Prod.snd
  ofRow? row := (row.get? "flag_id").map fun id => (id, row)

/-- A flag that is on or off. -/
def flag (id : Scalar) (on : Bool) : Scalar × Row := (id, OrderedMap.ofList [("flag_id", id), ("is_on", .bool on)])

/-- The repository of the flags, which are flattened as they are mapped. -/
def flagRepository : EntityRepository (Scalar × Row) := ⟨flags false, .mapped, "id", rfl⟩

/-- The table of the flags with one flag. -/
def flagTable : Table where
  schema := Storage.Sample.flags
  records := [OrderedMap.ofList [("flag_id", .int 1), ("is_on", .int 1)]]

/-- A database of flags only. -/
def flagConnection : Connection := { database := { tables := [flagTable] } }

/-- Rows of a single column, each under its value. -/
def single (table column : String) : Mapping (Scalar × Row) where
  table
  identity := column
  properties := OrderedMap.ofList [("id", column)]
  identityOf := Prod.fst
  toRow := Prod.snd
  ofRow? row := (row.get? column).map fun id => (id, row)

/-! ### Single tables -/

/-- A mapping is served by a database of its table alone, whatever updates count there. -/
private theorem serves_alone {m : Mapping (Scalar × Row)} {t : Table} {type : ColumnType} (hfits : m.Fits t type)
    (hname : t.schema.name = m.table)
    (hunlisted : (({ tables := [] } : Database).listings.find? fun u =>
      Storage.Catalog.answersTo u t.schema.name).isNone)
    (hzero : m.table.contains '\x00' = false) (counting : Storage.RowCounting) :
    Serves { database := { tables := [t], counting } } m t type where
  toFits := hfits
  writable := by
    rw [← hname]
    exact Database.writable_first t [] counting hunlisted
  named := List.nodup_singleton _
  noZero := hzero
  consistent _ := by
    have hsatisfied : ∀ r ∈ t.records, ({ tables := [t], counting } : Database).satisfied t r := by
      intro r _
      refine List.all_eq_true.2 fun c hc => ?_
      rw [hfits.keyed.schema.free c hc]
    simpa [Database.isConsistent] using hsatisfied

private theorem keyedBy_tags : Storage.Sample.tags.KeyedBy "tag_id" .text where
  distinct := by decide +kernel
  noZero := by
    have hnames : ∀ c ∈ Storage.Sample.tags.columns, '\x00' ∉ c.name.toList := by decide
    exact fun c hc => Schema.noZero_of_notMem (hnames c hc)
  key := rfl
  declared := ⟨{ name := "tag_id", type := .text }, by simp [Storage.Sample.tags], rfl, rfl⟩
  numbered h := absurd rfl h
  unconstrained := by simp [Storage.Sample.tags]
  free := by simp [Storage.Sample.tags]

theorem fits_tags : tags.Fits tagTable .text where
  keyed := by
    refine ⟨keyedBy_tags, ?_, ?_⟩
    · intro r hr
      obtain rfl := List.mem_singleton.1 hr
      exact ⟨.text "a", trivial, rfl⟩
    · exact List.nodup_singleton _
  mapped := by decide
  identified := by decide

theorem serves_tags_of_counting (counting : Storage.RowCounting) :
    Serves { database := { tables := [tagTable], counting } } tags tagTable .text :=
  serves_alone fits_tags rfl (by decide +kernel) (Schema.noZero_of_notMem (by decide)) counting

theorem serves_tags : Serves connection tags tagTable .text := serves_tags_of_counting .selected

theorem carries_tag (id label : String) : tags.Carries .text (tag id label) where
  owned := trivial
  complete := by
    intro column hc
    have hcolumns : tags.properties.columns = ["tag_id", "label"] := by decide
    rw [hcolumns, List.mem_cons, List.mem_singleton] at hc
    rcases hc with rfl | rfl
    · rfl
    · rfl
  identified := rfl

/-- The stored tag is named by its own identity alone. -/
theorem names_tag_iff {id : String} {r : Record} (hr : r ∈ tagTable.records) :
    tags.Names tagTable (.text id) r ↔ id = "a" := by
  have hselects : Storage.selects tagTable.schema (some (tags.hasIdentity (.text id))) r =
      (Record.cell r "tag_id").same (.text id) :=
    keyedBy_tags.selects_identity (carries_tag id "").owned r
  obtain rfl := List.mem_singleton.1 hr
  rw [← Mapping.selects_hasIdentity, hselects]
  exact Cell.same_text.trans eq_comm

theorem keyedBy_flags : Storage.Sample.flags.KeyedBy "flag_id" .integer where
  distinct := by decide +kernel
  noZero := by
    have hnames : ∀ c ∈ Storage.Sample.flags.columns, '\x00' ∉ c.name.toList := by decide
    exact fun c hc => Schema.noZero_of_notMem (hnames c hc)
  key := rfl
  declared := ⟨{ name := "flag_id", type := .integer }, by simp [Storage.Sample.flags], rfl, rfl⟩
  numbered _ := rfl
  unconstrained := by simp [Storage.Sample.flags]
  free := by simp [Storage.Sample.flags]

theorem fits_flags (generatesIdentity : Bool) : (flags generatesIdentity).Fits flagTable .integer where
  keyed := by
    refine ⟨keyedBy_flags, ?_, ?_⟩
    · intro r hr
      obtain rfl := List.mem_singleton.1 hr
      exact ⟨.int 1, trivial, rfl⟩
    · exact List.nodup_singleton _
  mapped := by
    cases generatesIdentity <;> decide
  identified := by
    cases generatesIdentity <;> decide

theorem serves_flags (generatesIdentity : Bool) :
    Serves flagConnection (flags generatesIdentity) flagTable .integer := by
  have hzero : "flags".contains '\x00' = false := Schema.noZero_of_notMem (by decide)
  exact serves_alone (fits_flags generatesIdentity) rfl (by decide +kernel) hzero .selected

theorem completes_flag (generatesIdentity : Bool) (id : Scalar) (on : Bool) :
    (flags generatesIdentity).Completes (flag id on).2 := by
  intro column hc
  have hcolumns : (flags generatesIdentity).properties.columns = ["flag_id", "is_on"] := by
    cases generatesIdentity <;> decide
  rw [hcolumns, List.mem_cons, List.mem_singleton] at hc
  rcases hc with rfl | rfl
  · rfl
  · rfl

/-! ### Any flags -/

/-- The flags, of which storage has these records. -/
def flagsOf (records : List Record) : Table := { schema := Storage.Sample.flags, records }

theorem columns_flags : (flags false).properties.columns = ["flag_id", "is_on"] := by decide

theorem readable_flags (records : List Record) :
    Readable { database := { tables := [flagsOf records] } } (flags false) (flagsOf records) := by
  have hwritable := Database.writable_first (flagsOf records) [] .selected
    (by decide +kernel : (({ tables := [] } : Database).listings.find? fun u =>
      Storage.Catalog.answersTo u Storage.Sample.flags.name).isNone)
  exact .of_declared (Database.readable_of_writable hwritable) (by decide +kernel)
    (by decide +kernel : ∀ column ∈ (flags false).properties.columns, (Storage.Sample.flags.column? column).isSome)

/-! ### Notes about tags -/

/-- Notes, each of them about a tag. -/
def noteSchema : Schema where
  name := "notes"
  columns := [
    { name := "note_id", type := .text },
    { name := "tag_id", type := .text, references := some "tags" }]
  key := "note_id"
  keyKind := .natural

/-- Rows of the notes, each under the identity that it has. -/
def notes : Mapping (Scalar × Row) where
  table := "notes"
  identity := "note_id"
  properties := OrderedMap.ofList [("id", "note_id"), ("tag", "tag_id")]
  identityOf := Prod.fst
  toRow := Prod.snd
  ofRow? row := (row.get? "note_id").map fun id => (id, row)

/-- A note about the tag of the table. -/
def note : Record := OrderedMap.ofList [("note_id", .text "n"), ("tag_id", .text "a")]

/-- A database of tags and notes. -/
def notebook (ts ns : List Record) : Database where
  tables := [{ schema := Storage.Sample.tags, records := ts }, { schema := noteSchema, records := ns }]

theorem writable_tags (ts ns : List Record) :
    (notebook ts ns).writable "tags" = .ok { schema := Storage.Sample.tags, records := ts } :=
  Database.writable_first { schema := Storage.Sample.tags, records := ts } [{ schema := noteSchema, records := ns }] .selected
    (by decide +kernel : (({ tables := [] } : Database).listings.find? fun u => Storage.Catalog.answersTo u "tags").isNone)

theorem write_delete_tags (ts ns : List Record) :
    (notebook ts ns).write (.delete "tags" none) = .ok { database := notebook [] ns, affected := ts.length } := by
  have hnames : Database.checkNames ["tags"] = .ok () := Database.checkNames_of_notMem (by decide)
  rw [Database.write_delete_none hnames (writable_tags ts ns)]
  rfl

theorem write_delete_notes (ts ns : List Record) :
    (notebook ts ns).write (.delete "notes" none) = .ok { database := notebook ts [], affected := ns.length } := by
  have hnames : Database.checkNames ["notes"] = .ok () := Database.checkNames_of_notMem (by decide)
  have hother : ¬Storage.sameName Storage.Sample.tags.name "notes" := by decide +kernel
  have hsame : Storage.sameName noteSchema.name "notes" := by decide +kernel
  have hfind : (notebook ts ns).table? "notes" = some { schema := noteSchema, records := ns } :=
    (List.find?_cons_of_neg (p := fun t : Table => Storage.sameName t.schema.name "notes") hother).trans
      (List.find?_cons_of_pos hsame)
  rw [Database.write_delete_none hnames (Database.writable_of_unlisted (by decide +kernel) hfind)]
  rfl

end CriteriaStore.Sample
