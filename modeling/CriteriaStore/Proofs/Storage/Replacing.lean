import CriteriaStore.Proofs.Storage.Keyed
import CriteriaStore.Storage.Connection
import Mathlib.Data.List.Nodup

/-!
# Replacing a table

A write replaces one table of a database by its next state. The next state is found where the table was, further
writes replace it again, and references stay satisfied as long as no key is given up (`isConsistent_setTable`).
-/

namespace CriteriaStore.Storage

namespace Database

variable {d : Database} {t t' : Table} {name : String}

/-- The tables of a database are told apart by their names. -/
def Named (d : Database) : Prop := (d.tables.map fun t => t.schema.name).Nodup

theorem Named.eq_of_name (hn : d.Named) {u : Table} (hu : u ∈ d.tables) (ht : t ∈ d.tables)
    (h : u.schema.name = t.schema.name) : u = t := List.inj_on_of_nodup_map hn hu ht h

theorem mem_of_table? (h : d.table? name = some t) : t ∈ d.tables := List.mem_of_find?_eq_some h

/-- Tables are found after a replacement where they were before. -/
theorem table?_setTable (d : Database) (t : Table) (name : String) :
    (d.setTable t).table? name =
      (d.table? name).map fun u => if u.schema.name = t.schema.name then t else u := by
  have hname : ((fun u : Table => sameName u.schema.name name) ∘
      fun u => if u.schema.name = t.schema.name then t else u) = fun u => sameName u.schema.name name := by
    funext u
    show sameName (if u.schema.name = t.schema.name then t else u).schema.name name = _
    split
    · rename_i he
      rw [he]
    · rfl
  unfold table? setTable
  rw [List.find?_map, hname]

theorem table?_setTable_self (h : d.table? name = some t) (hs : t'.schema = t.schema) :
    (d.setTable t').table? name = some t' := by
  rw [table?_setTable, h, Option.map_some, if_pos (by rw [hs])]

/-- The names of the listings are the same in every database. -/
theorem listings_find? (d d' : Database) (name : String) :
    (d.listings.find? fun t => Catalog.answersTo t name) = none ↔
      (d'.listings.find? fun t => Catalog.answersTo t name) = none := by
  rw [List.find?_eq_none, List.find?_eq_none]
  unfold listings Catalog.listings
  rw [List.forall_mem_cons, List.forall_mem_cons, List.forall_mem_singleton, List.forall_mem_cons,
    List.forall_mem_cons, List.forall_mem_singleton]
  rfl

theorem writable_eq_ok :
    d.writable name = .ok t ↔
      (d.listings.find? fun t => Catalog.answersTo t name) = none ∧ d.table? name = some t := by
  unfold writable table
  cases d.listings.find? fun t => Catalog.answersTo t name with
  | some u => simp
  | none => cases d.table? name <;> simp

/-- A table may be changed when no listing has its name; which names listings have does not depend on the database. -/
theorem writable_of_unlisted (hunlisted : (({ tables := [] } : Database).listings.find? fun t => Catalog.answersTo t name).isNone)
    (h : d.table? name = some t) : d.writable name = .ok t :=
  writable_eq_ok.2 ⟨(listings_find? d { tables := [] } name).2 (Option.isNone_iff_eq_none.1 hunlisted), h⟩

/-- The first table of a database is found under its name. -/
theorem writable_first (t : Table) (rest : List Table) (counting : RowCounting)
    (hunlisted : (({ tables := [] } : Database).listings.find? fun u => Catalog.answersTo u t.schema.name).isNone) :
    ({ tables := t :: rest, counting } : Database).writable t.schema.name = .ok t :=
  writable_of_unlisted hunlisted (List.find?_cons_of_pos (Schema.sameName_refl t.schema.name))

theorem readable_of_listed (h : (d.listings.find? fun t => Catalog.answersTo t name) = some t) :
    d.readable name = .ok t := by
  unfold readable
  rw [h]

theorem readable_of_writable (h : d.writable name = .ok t) : d.readable name = .ok t := by
  obtain ⟨hl, ht⟩ := writable_eq_ok.1 h
  unfold readable table
  rw [hl, ht]

theorem writable_setTable (h : d.writable name = .ok t) (hs : t'.schema = t.schema) :
    (d.setTable t').writable name = .ok t' := by
  obtain ⟨hl, ht⟩ := writable_eq_ok.1 h
  exact writable_eq_ok.2 ⟨(listings_find? _ _ name).1 hl, table?_setTable_self ht hs⟩

theorem setTable_setTable (d : Database) {t t' : Table} (hs : t'.schema = t.schema) :
    (d.setTable t).setTable t' = d.setTable t' := by
  unfold setTable
  rw [List.map_map, hs]
  congr 1
  refine List.map_congr_left fun u _ => ?_
  show (if (if u.schema.name = t.schema.name then t else u).schema.name = t.schema.name then t' else
    if u.schema.name = t.schema.name then t else u) = _
  by_cases he : u.schema.name = t.schema.name <;> simp [he]

theorem setTable_self (hn : d.Named) (h : t ∈ d.tables) : d.setTable t = d := by
  have hmap : (d.tables.map fun u => if u.schema.name = t.schema.name then t else u) = d.tables := by
    conv => rhs; rw [← List.map_id d.tables]
    refine List.map_congr_left fun u hu => ?_
    split
    · rename_i he
      exact (hn.eq_of_name hu h he).symm
    · rfl
  unfold setTable
  rw [hmap]

theorem Named.setTable (hn : d.Named) (t : Table) : (d.setTable t).Named := by
  have hname : ((fun u : Table => u.schema.name) ∘ fun u => if u.schema.name = t.schema.name then t else u) =
      fun u => u.schema.name := by
    funext u
    show (if u.schema.name = t.schema.name then t else u).schema.name = _
    split
    · rename_i he
      exact he.symm
    · rfl
  unfold Named Database.setTable
  rw [List.map_map, hname]
  exact hn

/-! ### References -/

/-- Whether a record of a database refers to the key of a record. -/
def Refers (d : Database) (t : Table) (r : Record) : Prop :=
  ∃ u ∈ d.tables, ∃ o ∈ u.records, ∃ c ∈ u.schema.columns, ∃ parent, c.references = some parent ∧
    (Record.cell o c.name).isNull = false ∧ d.table? parent = some t ∧
    (Record.cell r t.schema.key).same (Record.cell o c.name)

theorem isConsistent_iff :
    d.isConsistent ↔ ∀ u ∈ d.tables, ∀ o ∈ u.records, ∀ c ∈ u.schema.columns, ∀ parent, c.references = some parent →
      (Record.cell o c.name).isNull = false → ∃ p, d.table? parent = some p ∧
        ∃ r ∈ p.records, (Record.cell r p.schema.key).same (Record.cell o c.name) := by
  unfold isConsistent satisfied
  simp only [List.all_eq_true]
  refine forall₂_congr fun u _ => forall₂_congr fun o _ => forall₂_congr fun c _ => ?_
  cases c.references with
  | none => simp
  | some parent => simp [Option.any_eq_true, Bool.or_eq_true, or_iff_not_imp_left]

/-- References stay satisfied when a table refers to nothing that it did not refer to before, and gives up no key that is
referred to. -/
theorem isConsistent_setTable (hn : d.Named) (h : t ∈ d.tables) (hs : t'.schema = t.schema)
    (hrefers : ∀ r' ∈ t'.records, ∀ c ∈ t.schema.columns, c.references ≠ none →
      ∃ r ∈ t.records, Record.cell r' c.name = Record.cell r c.name)
    (hkeys : ∀ r ∈ t.records, d.Refers t r → ∃ r' ∈ t'.records, Record.cell r' t.schema.key = Record.cell r t.schema.key)
    (hd : d.isConsistent) : (d.setTable t').isConsistent := by
  rw [isConsistent_iff] at hd ⊢
  intro v hv o' ho' c hc parent hparent hnull
  obtain ⟨w, hw, rfl⟩ := List.mem_map.1 hv
  -- what refers now has referred before
  obtain ⟨u, hu, o, ho, hc, hcell⟩ : ∃ u ∈ d.tables, ∃ o ∈ u.records, c ∈ u.schema.columns ∧
      Record.cell o' c.name = Record.cell o c.name := by
    by_cases hname : w.schema.name = t'.schema.name
    · rw [if_pos hname] at ho' hc
      rw [hs] at hc
      obtain ⟨o, ho, hcell⟩ := hrefers o' ho' c hc (by simp [hparent])
      exact ⟨t, h, o, ho, hc, hcell⟩
    · rw [if_neg hname] at ho' hc
      exact ⟨w, hw, o', ho', hc, rfl⟩
  rw [hcell] at hnull ⊢
  obtain ⟨p, hp, r, hr, hsame⟩ := hd u hu o ho c hc parent hparent hnull
  refine ⟨_, by rw [table?_setTable, hp, Option.map_some], ?_⟩
  by_cases hname : p.schema.name = t'.schema.name
  · obtain rfl := hn.eq_of_name (mem_of_table? hp) h (hname.trans (by rw [hs]))
    obtain ⟨r', hr', hkey⟩ := hkeys r hr ⟨u, hu, o, ho, c, hc, parent, hparent, hnull, hp, hsame⟩
    rw [if_pos hname]
    exact ⟨r', hr', by rw [hs, hkey]; exact hsame⟩
  · rw [if_neg hname]
    exact ⟨r, hr, hsame⟩

/-! ### Statements on one table -/

theorem checkNames_eq_ok {names : List String} (h : ∀ n ∈ names, n.contains '\x00' = false) :
    checkNames names = .ok () := by
  have hfind : names.find? (·.contains '\x00') = none := by
    rw [List.find?_eq_none]
    intro n hn
    simp [h n hn]
  unfold checkNames
  rw [hfind]

theorem checkNames_of_notMem {names : List String} (h : ∀ n ∈ names, '\x00' ∉ n.toList) : checkNames names = .ok () :=
  checkNames_eq_ok fun n hn => Schema.noZero_of_notMem (h n hn)

/-- An update that counts a record found one. -/
theorem exists_of_affectedBy_pos {condition : Option Sql.Where} {assignments : List (Column × Cell)}
    (h : 0 < d.affectedBy t condition assignments) : ∃ r ∈ t.records, selects t.schema condition r := by
  obtain ⟨r, hr⟩ := List.exists_mem_of_length_pos h
  rw [List.mem_filter, List.mem_filter] at hr
  exact ⟨r, hr.1⟩

theorem write_update {assignments : List (String × Sql.Term)} {condition : Option Sql.Where}
    {resolved : List (Column × Cell)} (hnames : checkNames (Sql.Write.update name assignments condition).names = .ok ())
    (h : d.writable name = .ok t) (hresolve : t.resolve (cells assignments) = .ok resolved)
    (hupdate : t.update condition resolved = .ok t') :
    d.write (.update name assignments condition) =
      .ok { database := d.setTable t', affected := d.affectedBy t condition resolved } := by
  simp only [write, hnames, h, hresolve, hupdate, bind, Except.bind]
  rfl

theorem write_insert {assignments : List (String × Sql.Term)} {resolved : List (Column × Cell)} {r : Record}
    (hnames : checkNames (Sql.Write.insert name assignments).names = .ok ()) (h : d.writable name = .ok t)
    (hresolve : t.resolve (cells assignments) = .ok resolved) (hinsert : t.insert resolved = .ok (t', r)) :
    d.write (.insert name assignments) =
      .ok { database := d.setTable t', affected := 1, number := t.numberOf? r } := by
  simp only [write, hnames, h, hresolve, hinsert, bind, Except.bind]
  rfl

theorem write_insert_error {assignments : List (String × Sql.Term)} {resolved : List (Column × Cell)}
    {e : StorageError} (hnames : checkNames (Sql.Write.insert name assignments).names = .ok ())
    (h : d.writable name = .ok t) (hresolve : t.resolve (cells assignments) = .ok resolved)
    (hinsert : t.insert resolved = .error e) : d.write (.insert name assignments) = .error e := by
  simp only [write, hnames, h, hresolve, hinsert, bind, Except.bind]

theorem write_delete (condition : Option Sql.Where)
    (hnames : checkNames (Sql.Write.delete name condition).names = .ok ()) (h : d.writable name = .ok t) :
    d.write (.delete name condition) =
      .ok {
        database := d.setTable (t.delete condition)
        affected := (t.records.filter (selects t.schema condition)).length } := by
  simp only [write, hnames, h, bind, Except.bind]
  rfl

theorem write_delete_none (hnames : checkNames [name] = .ok ()) (h : d.writable name = .ok t) :
    d.write (.delete name none) =
      .ok { database := d.setTable { t with records := [] }, affected := t.records.length } := by
  have hnames' : checkNames (Sql.Write.delete name none).names = .ok () := hnames
  have hall : t.records.filter (selects t.schema none) = t.records := List.filter_eq_self.2 fun _ _ => rfl
  have hrest : t.delete none = { t with records := [] } := by
    unfold Table.delete
    rw [List.filter_eq_nil_iff.2 fun _ _ => by simp [selects]]
  rw [write_delete none hnames' h, hall, hrest]

theorem rows_eq_ok {q : Sql.Select} (hnames : checkNames q.names = .ok ()) (h : d.readable q.table = .ok t) :
    d.rows q = .ok (t.rows q) := by
  simp only [rows, hnames, h, bind, Except.bind]
  rfl

theorem count_eq_ok {column : String} {condition : Option Sql.Where}
    (hnames : checkNames (column :: name :: Sql.conditionNames condition) = .ok ()) (h : d.readable name = .ok t)
    (hcount : namesCount t.schema condition = false) :
    d.count name column condition = .ok (t.count column condition) := by
  simp only [count, hnames, h, hcount, bind, Except.bind]
  rfl

end Database

namespace Connection

/-- The connection with the next state of a table, and perhaps another last number. -/
def replace (c : Connection) (t : Table) (number : Option Int64) : Connection :=
  { c with database := c.database.setTable t, lastNumber := number.getD c.lastNumber }

/-- A write takes effect when it leaves no reference open. -/
theorem write_eq_ok {c : Connection} {w : Sql.Write} {t : Table} {affected : Nat} {number : Option Int64}
    (h : c.database.write w = .ok { database := c.database.setTable t, affected, number })
    (hc : c.frames = [] → (c.database.setTable t).isConsistent) : c.write w = (.ok affected, c.replace t number) := by
  have hopen : (c.frames.isEmpty && !(c.database.setTable t).isConsistent) = false := by
    cases hf : c.frames with
    | nil => simp [hc hf]
    | cons f rest => rfl
  unfold write
  rw [h]
  simp only [hopen]
  rfl

theorem replace_replace (c : Connection) {t t' : Table} (hs : t'.schema = t.schema) (a b : Option Int64) :
    (c.replace t a).replace t' b = c.replace t' (b.or a) := by
  unfold replace
  rw [Database.setTable_setTable _ hs]
  cases b <;> cases a <;> rfl

theorem replace_self {c : Connection} {t : Table} (hn : c.database.Named) (h : t ∈ c.database.tables) :
    c.replace t none = c := by
  unfold replace
  rw [Database.setTable_self hn h]
  rfl

end Connection

end CriteriaStore.Storage
