import CriteriaStore.Proofs.Storage.Changing
import CriteriaStore.Proofs.Storage.Replacing
import CriteriaStore.Storage.Sample

/-!
# What storage keeps

The records of a table satisfy its declaration, and storage refuses what would not (`Table.Sound.next`). So a database stays
sound under every write, and a connection under every write and every transaction, opened, kept or undone
(`Connection.Sound.write`, `Connection.Sound.begin`, `Connection.Sound.commit`, `Connection.Sound.rollback`): its tables are
sound, those it may return to are, and outside of transactions no reference is open.

Of a sound table, a column whose values must differ tells the records apart (`Table.Sound.distinguishes`).
-/

namespace CriteriaStore.Storage

/-! ### Records beside others -/

/-- Whether two records have the same value in a column. -/
def Record.Shares (column : String) (a b : Record) : Prop :=
  (Record.cell a column).isNull = false ∧ (Record.cell a column).same (Record.cell b column)

theorem Record.Shares.symm {column : String} {a b : Record} (h : Record.Shares column a b) : Record.Shares column b a :=
  ⟨(Cell.isNull_of_same h.2).symm.trans h.1, Cell.same_symm h.2⟩

/-- Whether the values of a column must differ. -/
def Schema.Separates (s : Schema) (column : String) : Prop :=
  column = s.key ∨ ∃ c ∈ s.columns, c.name = column ∧ c.unique.isSome

namespace Table

variable {t t' : Table} {column : String} {r : Record} {before after others records : List Record}

/-- Whether a record has by itself what the declaration demands of it. -/
def Complete (t : Table) (r : Record) : Prop :=
  t.keyFits r ∧ ∀ c ∈ t.schema.columns, t.demands c → (Record.cell r c.name).isNull = false

private theorem taken_eq_false : taken others r column = false ↔ ∀ o ∈ others, ¬Record.Shares column o r := by
  unfold taken Record.Shares
  rw [Bool.and_eq_false_iff, List.any_eq_false]
  constructor
  · rintro (hnull | hnone) o ho ⟨hsome, hsame⟩
    · rw [Cell.isNull_of_same hsame] at hsome
      simp [hsome] at hnull
    · exact hnone o ho hsame
  · intro hnone
    by_cases hnull : (Record.cell r column).isNull
    · exact .inl (by simp [hnull])
    · refine .inr fun o ho hsame => hnone o ho ⟨?_, hsame⟩
      rw [Cell.isNull_of_same hsame]
      simpa using hnull

theorem violation?_eq_none_iff :
    t.violation? others r = none ↔ (∀ c ∈ t.schema.columns, t.demands c → (Record.cell r c.name).isNull = false) ∧
      ∀ column, t.schema.Separates column → ∀ o ∈ others, ¬Record.Shares column o r := by
  unfold violation?
  cases hdemanded : t.schema.columns.find? fun c => t.demands c && (Record.cell r c.name).isNull with
  | some c =>
    have hc := List.find?_some hdemanded
    rw [Bool.and_eq_true] at hc
    refine ⟨nofun, fun ⟨hall, _⟩ => ?_⟩
    rw [hall c (List.mem_of_find?_eq_some hdemanded) hc.1] at hc
    cases hc.2
  | none =>
    have hall : ∀ c ∈ t.schema.columns, t.demands c → (Record.cell r c.name).isNull = false := by simpa using hdemanded
    simp only [and_iff_right hall, ← taken_eq_false]
    cases hkey : taken others r t.schema.key with
    | true => simpa using ⟨t.schema.key, .inl rfl, hkey⟩
    | false =>
      rw [if_neg Bool.false_ne_true, List.findSome?_eq_none_iff]
      constructor
      · rintro hunique column (rfl | ⟨c, hc, rfl, hsome⟩)
        · exact hkey
        · obtain ⟨effect, heffect⟩ := Option.isSome_iff_exists.1 hsome
          simpa [heffect] using hunique c hc
      · intro hseparated c hc
        cases hunique : c.unique with
        | none => rfl
        | some effect => simp [hseparated c.name (.inr ⟨c, hc, rfl, by rw [hunique]; rfl⟩)]

private theorem pairwise_iff_split {α : Type} {R : α → α → Prop} (hsymm : ∀ a b, R a b → R b a) {l : List α} :
    l.Pairwise R ↔ ∀ before a after, l = before ++ a :: after → ∀ b ∈ before ++ after, R b a := by
  constructor
  · rintro h before a after rfl b hb
    rw [List.pairwise_middle @hsymm, List.pairwise_cons] at h
    exact hsymm a b (h.1 b hb)
  · intro h
    induction l with
    | nil => exact .nil
    | cons a rest ih =>
      refine List.pairwise_cons.2 ⟨fun b hb => hsymm b a (h [] a rest rfl b hb), ih fun before x after hsplit b hb => ?_⟩
      exact h (a :: before) x after (by rw [hsplit]; rfl) b (List.mem_cons_of_mem a hb)

/-- A table is sound when each record is complete and no two have the same value where values must differ. -/
theorem sound_iff :
    t.Sound ↔ (∀ r ∈ t.records, t.Complete r) ∧
      ∀ column, t.schema.Separates column → t.records.Pairwise fun a b => ¬Record.Shares column a b := by
  have hsymm (column : String) : ∀ a b, ¬Record.Shares column a b → ¬Record.Shares column b a :=
    fun _ _ hapart hshared => hapart hshared.symm
  simp only [pairwise_iff_split (hsymm _)]
  unfold Sound
  simp only [violation?_eq_none_iff]
  constructor
  · intro h
    refine ⟨fun r hr => ?_, fun column hcolumn before r after hsplit => ?_⟩
    · obtain ⟨before, after, hsplit⟩ := List.append_of_mem hr
      exact ⟨(h before r after hsplit).1, (h before r after hsplit).2.1⟩
    · exact (h before r after hsplit).2.2 column hcolumn
  · rintro ⟨hcomplete, hapart⟩ before r after hsplit
    obtain ⟨hfits, hdemanded⟩ := hcomplete r (by rw [hsplit]; exact List.mem_append_right _ List.mem_cons_self)
    exact ⟨hfits, hdemanded, fun column hcolumn => hapart column hcolumn before r after hsplit⟩

/-- A record may stand anywhere among others that are sound, if it violates nothing beside them. -/
private theorem sound_middle :
    ({ t with records := before ++ r :: after } : Table).Sound ↔
      ({ t with records := before ++ after } : Table).Sound ∧ t.keyFits r ∧ t.violation? (before ++ after) r = none := by
  have hsymm (column : String) : ∀ {a b}, ¬Record.Shares column a b → ¬Record.Shares column b a :=
    fun hapart hshared => hapart hshared.symm
  -- sharing a value is symmetric, so the record may as well be the first one
  rw [sound_iff, sound_iff, violation?_eq_none_iff]
  simp only [List.pairwise_middle (hsymm _), List.pairwise_cons]
  constructor
  · rintro ⟨hcomplete, hapart⟩
    have hr : t.Complete r := hcomplete r (List.mem_append_right _ List.mem_cons_self)
    refine ⟨⟨fun o ho => hcomplete o ?_, fun column hcolumn => (hapart column hcolumn).2⟩, hr.1, hr.2, ?_⟩
    · exact List.perm_middle.symm.subset (List.mem_cons_of_mem r ho)
    · exact fun column hcolumn o ho hshared => (hapart column hcolumn).1 o ho hshared.symm
  · rintro ⟨⟨hcomplete, hapart⟩, hfits, hdemanded, hnew⟩
    refine ⟨fun o ho => ?_, fun column hcolumn => ⟨fun o ho hshared => ?_, hapart column hcolumn⟩⟩
    · obtain rfl | ho := List.mem_cons.1 (List.perm_middle.subset ho)
      · exact ⟨hfits, hdemanded⟩
      · exact hcomplete o ho
    · exact hnew column hcolumn o ho hshared.symm

/-! ### Writes -/

/-- What a write makes of a table. -/
inductive Next (t : Table) : Table → Prop
  | updated {condition : Option Sql.Where} {assignments : List (Column × Cell)} {t' : Table}
      (h : t.update condition assignments = .ok t') : Next t t'
  | inserted {assignments : List (Column × Cell)} {t' : Table} {r : Record}
      (h : t.insert assignments = .ok (t', r)) : Next t t'
  | deleted (condition : Option Sql.Where) : Next t (t.delete condition)

theorem exists_of_insert_eq_ok {assignments : List (Column × Cell)} (h : t.insert assignments = .ok (t', r)) :
    t.keyFits r ∧ t.violation? t.records r = none ∧
      ∃ last, t' = { t with records := t.records ++ [r], lastNumber := last } := by
  unfold insert at h
  split at h
  · cases h
  · split at h
    · cases h
    · rename_i hfits
      split at h
      · cases h
      · rename_i hviolation
        cases h
        exact ⟨by simpa using hfits, hviolation, _, rfl⟩

private theorem sound_updateFrom {select : Record → Bool} {change : Record → Record}
    (hsound : ({ t with records := before ++ after } : Table).Sound)
    (h : t.updateFrom select change before after = .ok records) : ({ t with records } : Table).Sound := by
  induction after generalizing before with
  | nil =>
    rw [updateFrom] at h
    cases h
    rwa [List.append_nil] at hsound
  | cons r rest ih =>
    rw [updateFrom] at h
    split at h
    · -- the changed record takes the place of the record among the same others
      have hothers := (sound_middle.1 hsound).1
      dsimp only at h
      split at h
      · cases h
      · rename_i hfits
        split at h
        · cases h
        · rename_i hviolation
          refine ih ?_ h
          rw [List.append_assoc]
          exact sound_middle.2 ⟨hothers, by simpa using hfits, hviolation⟩
    · refine ih ?_ h
      rwa [List.append_assoc]

/-- Storage lets nothing into a sound table that would not be sound there. -/
theorem Sound.next (hsound : t.Sound) (h : t.Next t') : t'.Sound := by
  cases h with
  | @updated condition assignments _ h =>
    unfold update at h
    split at h
    · rename_i records hrecords
      cases h
      have hstart : ({ t with records := [] ++ t.records } : Table).Sound := hsound
      exact sound_updateFrom hstart hrecords
    · cases h
  | inserted h =>
    obtain ⟨hfits, hviolation, last, rfl⟩ := exists_of_insert_eq_ok h
    have hadded : ({ t with records := t.records ++ [_] } : Table).Sound :=
      sound_middle.2 ⟨by rwa [List.append_nil], hfits, by rwa [List.append_nil]⟩
    exact hadded
  | deleted condition =>
    rw [sound_iff] at hsound ⊢
    refine ⟨fun r hr => hsound.1 r (List.mem_filter.1 hr).1, fun column hcolumn => ?_⟩
    exact (hsound.2 column hcolumn).sublist List.filter_sublist

/-- Where values must differ they tell the records apart. -/
theorem Sound.distinguishes (h : t.Sound) (hs : t.schema.WellFormed) (hdeclared : column ∈ t.schema.columnNames)
    (hcolumn : t.schema.Separates column) : t.Distinguishes column := by
  refine ((sound_iff.1 h).2 column hcolumn).imp fun hapart hyes => hapart ?_
  rw [hs.cell_of_mem hdeclared, hs.cell_of_mem hdeclared, Cell.compare_eq_yes] at hyes
  exact ⟨hyes.1, hyes.2.2⟩

end Table

/-! ### Databases -/

namespace Database

variable {d : Database} {w : Sql.Write} {written : Written}

/-- Whether the tables of a database are told apart by their names, and each of them is sound. -/
structure Sound (d : Database) : Prop where
  named : d.Named
  tables : ∀ t ∈ d.tables, t.Sound

private theorem exists_of_bind_eq_ok {α β : Type} {x : Except StorageError α} {k : α → Except StorageError β} {b : β}
    (h : x >>= k = .ok b) : ∃ a, x = .ok a ∧ k a = .ok b := by
  cases x with
  | error e => cases h
  | ok a => exact ⟨a, rfl, h⟩

/-- A write that is carried out makes the next state of one table. -/
theorem exists_of_write_eq_ok (h : d.write w = .ok written) :
    ∃ t ∈ d.tables, ∃ t', t.Next t' ∧ written.database = d.setTable t' := by
  have hmem {name : String} {t : Table} (hwritable : d.writable name = .ok t) : t ∈ d.tables :=
    mem_of_table? (writable_eq_ok.1 hwritable).2
  unfold write at h
  obtain ⟨-, -, h⟩ := exists_of_bind_eq_ok h
  cases w with
  | update name assignments condition =>
    obtain ⟨t, hwritable, h⟩ := exists_of_bind_eq_ok h
    split at h
    · cases h
    · obtain ⟨t', hupdate, h⟩ := exists_of_bind_eq_ok h
      cases h
      exact ⟨t, hmem hwritable, t', .updated hupdate, rfl⟩
  | insert name assignments =>
    obtain ⟨t, hwritable, h⟩ := exists_of_bind_eq_ok h
    split at h
    · cases h
    · obtain ⟨⟨t', r⟩, hinsert, h⟩ := exists_of_bind_eq_ok h
      cases h
      exact ⟨t, hmem hwritable, t', .inserted hinsert, rfl⟩
  | delete name condition =>
    obtain ⟨t, hwritable, h⟩ := exists_of_bind_eq_ok h
    cases h
    exact ⟨t, hmem hwritable, _, .deleted condition, rfl⟩

theorem Sound.write (hsound : d.Sound) (h : d.write w = .ok written) : written.database.Sound := by
  obtain ⟨t, ht, t', hnext, hdatabase⟩ := exists_of_write_eq_ok h
  rw [hdatabase]
  refine ⟨hsound.named.setTable t', fun u' hu' => ?_⟩
  obtain ⟨u, hu, rfl⟩ := List.mem_map.1 hu'
  split
  · exact (hsound.tables t ht).next hnext
  · exact hsound.tables u hu

end Database

/-! ### Connections -/

namespace Connection

variable {c : Connection} {level : Nat} {f : Frame} {frames rest : List Frame}

/-- Whether the database of a connection is sound, and so is every one that it may return to. Where no transaction is open
no reference is, and none was when the outermost transaction was opened. -/
structure Sound (c : Connection) : Prop where
  database : c.database.Sound
  saved : ∀ f ∈ c.frames, f.saved.Sound
  consistent : c.frames = [] → c.database.isConsistent
  restored : ∀ f, c.frames.getLast? = some f → f.saved.isConsistent

theorem Sound.abandon (h : c.Sound) : c.abandon.Sound := by
  unfold Connection.abandon
  cases hlast : c.frames.getLast? with
  | none => exact h
  | some f => exact ⟨h.saved f (List.mem_of_getLast? hlast), nofun, fun _ => h.restored f hlast, nofun⟩

/-- Whether a write is carried out, refused, or rolls the transaction back, the connection stays sound. -/
theorem Sound.write (h : c.Sound) (w : Sql.Write) : (c.write w).2.Sound := by
  unfold Connection.write
  cases hwrite : c.database.write w with
  | error e =>
    dsimp only
    split
    · exact h.abandon
    · exact h
  | ok written =>
    dsimp only
    split
    · exact ⟨h.database, h.saved, h.consistent, h.restored⟩
    · -- outside of transactions the write was kept because no reference is open after it
      rename_i hkept
      refine ⟨h.database.write hwrite, h.saved, fun hframes => ?_, h.restored⟩
      have hempty : c.frames = [] := hframes
      simpa [hempty] using hkept

private theorem exists_of_upTo (h : upTo level frames = some (f, rest)) : ∃ inner, frames = inner ++ f :: rest := by
  induction frames with
  | nil => cases h
  | cons g frames ih =>
    rw [upTo] at h
    split at h
    · cases h
      exact ⟨[], rfl⟩
    · obtain ⟨inner, rfl⟩ := ih h
      exact ⟨g :: inner, rfl⟩

theorem Sound.begin (h : c.Sound) : c.begin.2.Sound := by
  unfold Connection.begin
  split
  · split
    · rename_i hempty
      have hframes : c.frames = [] := List.isEmpty_iff.1 hempty
      refine ⟨h.database, fun f hf => ?_, nofun, fun f hf => ?_⟩
      · obtain rfl := List.mem_singleton.1 hf
        exact h.database
      · obtain rfl := Option.some.inj hf
        exact h.consistent hframes
    · exact h
  · refine ⟨h.database, fun f hf => ?_, nofun, fun f hf => ?_⟩
    · obtain rfl | hf := List.mem_cons.1 hf
      · exact h.database
      · exact h.saved f hf
    · cases hframes : c.frames with
      | nil =>
        dsimp only at hf
        rw [hframes] at hf
        obtain rfl := Option.some.inj hf
        exact h.consistent hframes
      | cons g outer =>
        dsimp only at hf
        rw [hframes, List.getLast?_cons_cons, ← hframes] at hf
        exact h.restored f hf

/-- What stays open when an inner transaction ends is sound. -/
private theorem Sound.upTo (h : c.Sound) (hup : upTo level c.frames = some (f, rest)) :
    f.saved.Sound ∧ (∀ g ∈ rest, g.saved.Sound) ∧ ∀ g, (f :: rest).getLast? = some g → g.saved.isConsistent := by
  obtain ⟨inner, hframes⟩ := exists_of_upTo hup
  refine ⟨h.saved f ?_, fun g hg => h.saved g ?_, fun g hg => h.restored g ?_⟩
  · rw [hframes]
    exact List.mem_append_right _ List.mem_cons_self
  · rw [hframes]
    exact List.mem_append_right _ (List.mem_cons_of_mem _ hg)
  · rw [hframes, List.getLast?_append, hg]
    rfl

theorem Sound.commit (h : c.Sound) : c.commit.2.Sound := by
  unfold Connection.commit
  split
  · exact h
  · split
    · exact h
    · split
      · exact h
      · rename_i hconsistent
        exact ⟨h.database, nofun, fun _ => by simpa using hconsistent, nofun⟩
  · split
    · exact h
    · rename_i hup
      obtain ⟨-, hsaved, hrestored⟩ := h.upTo hup
      split
      · exact h
      · rename_i hconsistent
        refine ⟨h.database, hsaved, fun hframes => ?_, fun g hg => hrestored g ?_⟩
        · dsimp only at hframes
          simpa [hframes] using hconsistent
        · dsimp only at hg
          rw [List.getLast?_cons, hg]
          rfl

theorem Sound.rollback (h : c.Sound) : c.rollback.2.Sound := by
  unfold Connection.rollback
  split
  · exact h
  · split
    · exact h
    · have habandoned := h.abandon
      exact ⟨habandoned.database, habandoned.saved, habandoned.consistent, habandoned.restored⟩
  · split
    · exact h
    · rename_i hup
      obtain ⟨hdatabase, hsaved, hrestored⟩ := h.upTo hup
      refine ⟨hdatabase, List.forall_mem_cons.2 ⟨hdatabase, hsaved⟩, nofun, hrestored⟩

end Connection

/-! ### The sample database -/

namespace Sample

private theorem sound_customers : ∀ t ∈ database.tables.head?, t.Sound := by
  intro t ht
  obtain rfl := Option.some.inj ht
  refine Table.sound_iff.2 ⟨?_, ?_⟩
  · unfold Table.Complete
    decide +kernel
  · have hunique : ∀ c ∈ customers.columns, c.unique = none := by decide
    rintro column (rfl | ⟨c, hc, rfl, hsome⟩)
    · unfold Record.Shares
      decide +kernel
    · rw [hunique c hc] at hsome
      cases hsome

theorem sound : connection.Sound where
  database := by
    have hempty : ∀ t ∈ database.tables.tail, t.records = [] := by decide
    refine ⟨?_, fun t ht => ?_⟩
    · unfold Database.Named
      decide +kernel
    · obtain rfl | ht := List.mem_cons.1 ht
      · exact sound_customers _ rfl
      · rw [Table.sound_iff, hempty t ht]
        exact ⟨nofun, fun _ _ => .nil⟩
  saved := nofun
  consistent _ := by decide +kernel
  restored := nofun

end Sample

end CriteriaStore.Storage
