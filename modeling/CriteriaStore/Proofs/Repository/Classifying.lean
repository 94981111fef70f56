import CriteriaStore.Proofs.Repository.Lookup
import CriteriaStore.Proofs.Repository.Sample

/-!
# Telling updates from new rows

A batch looks its identities up at once, and then tells by the key texts of what it reads back which of its entities are
stored (`Readable.gives_storedKeys`). A single look-up leaves the comparison to storage (`Readable.gives_exists`).

Key texts are compared as they are written, and storage compares values. The two agree on integers in a column of
integers, on texts in a column of texts, and across these kinds where an integer is written in the usual way
(`ColumnType.Keeps`). They differ on truth values, which are stored as integers: their key text is none of an integer.
-/

namespace CriteriaStore

open Storage (Connection Table ColumnType Cell Record)

/-! ### Numerals -/

namespace Storage

private theorem isNumeralBlank_of_isDigit {c : Char} (h : c.isDigit) : isNumeralBlank c = false := by
  have hrange := Decimal.toNat_of_isDigit h
  have hspace : c ≠ ' ' := by
    rintro rfl
    exact absurd hrange (by decide)
  simp only [isNumeralBlank, Bool.or_eq_false_iff, beq_eq_false_iff_ne, Bool.and_eq_false_iff, decide_eq_false_iff_not]
  exact ⟨hspace, .inr (by omega)⟩

private theorem isNumeralBlank_of_mem_toString {n : Int} {c : Char} (h : c ∈ (toString n).toList) :
    isNumeralBlank c = false := by
  have hdigit {k : Nat} (hc : c ∈ Nat.toDigits 10 k) : isNumeralBlank c = false :=
    isNumeralBlank_of_isDigit (Nat.isDigit_of_mem_toDigits (by decide) (by decide) hc)
  rw [Int.toString_eq_repr, Int.repr_eq_if] at h
  split at h
  · rw [Nat.toList_repr] at h
    exact hdigit h
  · rw [String.toList_append, Nat.toList_repr, List.mem_append] at h
    rcases h with hsign | h
    · obtain rfl : c = '-' := by simpa using hsign
      decide
    · exact hdigit h

private theorem dropWhile_isNumeralBlank {l : List Char} (h : ∀ c ∈ l, isNumeralBlank c = false) :
    l.dropWhile isNumeralBlank = l := by
  cases l with
  | nil => rfl
  | cons c rest => exact List.dropWhile_cons_of_neg (by simp [h c List.mem_cons_self])

/-- The usual text of an integer is its numeral. -/
theorem numeral?_toString (n : Int64) : numeral? (toString n.toInt) = some (.int n) := by
  have hblank : ∀ c ∈ (toString n.toInt).toList, isNumeralBlank c = false := fun c => isNumeralBlank_of_mem_toString
  have hreverse : ∀ c ∈ (toString n.toInt).toList.reverse, isNumeralBlank c = false :=
    fun c hc => hblank c (List.mem_reverse.1 hc)
  unfold numeral?
  simp only [dropWhile_isNumeralBlank hblank, dropWhile_isNumeralBlank hreverse, List.reverse_reverse,
    String.ofList_toList, Decimal.readInt64?_toString]

/-! ### Identities and key texts -/

/-- Whether a column of a type keeps a value under its own key text: nothing, integers in a column of integers, texts in
a column of texts, and either in the column of the other if an integer is written in the usual way. -/
def ColumnType.Keeps : ColumnType → Scalar → Prop
  | _, .null => True
  | integer, .int _ => True
  | integer, .text s => ∃ n : Int64, s = toString n.toInt
  | text, .int _ => True
  | text, .text _ => True
  | _, _ => False

/-- A value that a column keeps is compared with an identity of the column as their key texts are. -/
theorem ColumnType.Keeps.compare_iff {type : ColumnType} {id own : Scalar} (hid : type.Keeps id)
    (hnull : id.isNull = false) (hown : type.Owns own) :
    (Cell.ofScalar own).compare .eq (type.comparand (Cell.ofScalar id)) = .yes ↔ own.keyText = id.keyText := by
  obtain ⟨rfl, k, rfl⟩ | ⟨rfl, s, rfl⟩ := hown.cases
  · have hcompare (n : Int64) : (Cell.int k).compare .eq (.int n) = .yes ↔ toString k.toInt = toString n.toInt := by
      rw [Cell.compare_eq_yes, Cell.same_int, Decimal.toString_toInt_inj]
      simp [Cell.isNull]
    cases id with
    | null => cases hnull
    | bool b => exact hid.elim
    | float x => exact hid.elim
    | int n => exact hcompare n
    | text u =>
      obtain ⟨n, rfl⟩ := hid
      have hnumber (s : String) : ColumnType.integer.comparand (.text s) = (numeral? s).getD (.text s) := rfl
      show (Cell.int k).compare .eq (ColumnType.integer.comparand (.text (toString n.toInt))) = .yes ↔
        toString k.toInt = toString n.toInt
      rw [hnumber, numeral?_toString, Option.getD_some]
      exact hcompare n
  · have hcompare (u : String) : (Cell.text s).compare .eq (.text u) = .yes ↔ s = u := by
      rw [Cell.compare_eq_yes, Cell.same_text]
      simp [Cell.isNull]
    cases id with
    | null => cases hnull
    | bool b => exact hid.elim
    | float x => exact hid.elim
    | int n => exact hcompare (toString n.toInt)
    | text u => exact hcompare u

/-- A column of a type that holds identities, each record one or nothing. -/
structure Table.Holds (t : Table) (identity : String) (type : ColumnType) : Prop where
  declared : ∃ c, t.schema.column? identity = some c ∧ c.name = identity ∧ c.type = type
  owned : ∀ r ∈ t.records, Record.cell r identity = .null ∨ ∃ id, type.Owns id ∧ Record.cell r identity = Cell.ofScalar id

end Storage

namespace Mapping

variable {ε : Type} {m : Mapping ε} {t : Table} {r : Record} {id : Scalar} {type : ColumnType}

private theorem get?_row (h : t.Holds m.identity type) :
    (t.schema.row [m.identity] r).get? m.identity = type.read? (Record.cell r m.identity) := by
  obtain ⟨c, hc, hname, rfl⟩ := h.declared
  unfold Storage.Schema.row
  simp only [List.filterMap_cons, hc, hname]
  cases c.type.read? (Record.cell r m.identity) with
  | none => rfl
  | some v =>
    have hget := OrderedMap.get?_insert (∅ : OrderedMap String Scalar) m.identity m.identity v
    rwa [if_pos rfl] at hget

/-- Of the records with an identity, a value that the column keeps names the one with its key text. -/
theorem names_iff_key? (h : t.Holds m.identity type) (hid : type.Keeps id) (hnull : id.isNull = false)
    (hr : r ∈ t.records) (hcell : (t.schema.cell r m.identity).isNull = false) :
    m.Names t id r ↔ m.key? t r = some id.keyText := by
  obtain ⟨c, hc, hname, htype⟩ := h.declared
  have hrecord : t.schema.cell r m.identity = Record.cell r m.identity := by
    simp only [Storage.Schema.cell, hc, hname]
  rw [hrecord] at hcell
  obtain hempty | ⟨own, hown, he⟩ := h.owned r hr
  · rw [hempty] at hcell
    cases hcell
  have hkey : m.key? t r = some own.keyText := by
    unfold key?
    rw [get?_row h, he, hown.read?, Option.map_some]
  have hcomparand : t.schema.comparand m.identity (.bound id) = type.comparand (Cell.ofScalar id) := by
    rw [← htype]
    simp only [Storage.Schema.comparand, hc]
  unfold Names
  rw [hkey, Option.some.injEq, ← hid.compare_iff hnull hown, hrecord, he, hcomparand]

end Mapping

/-! ### Looking up -/

namespace Readable

variable {ε : Type} {c : Connection} {m : Mapping ε} {t : Table}

/-- In a batch an entity counts as stored when a record that one of the identities names has its key text, and it exists
when its own identity names a record. These are the same for every entity whose identity the column keeps under its own
key text. -/
theorem classifies_as_exists (h : Readable c m t) (hmapped : m.identity ∈ m.properties.columns)
    (hshown : ∀ r ∈ t.records, (t.schema.row t.schema.columnNames r).isEmpty = false) (batch : List (Scalar × Row)) :
    ∃ keys, (Rows.storedKeys m ((batch.map Prod.fst).filter fun id => !id.isNull)).Gives c (.ok keys) c ∧
      ∀ e ∈ batch, ∃ found, (Rows.exists m e.1).Gives c (.ok found) c ∧
        let stored := !e.1.isNull && keys.contains e.1.keyText
        (stored ↔ e.1.isNull = false ∧
          ∃ r ∈ t.records, (∃ o ∈ batch, m.Names t o.1 r) ∧ m.key? t r = some e.1.keyText) ∧
        (found ↔ ∃ r ∈ t.records, m.Names t e.1 r) ∧
        ∀ type, t.Holds m.identity type → type.Keeps e.1 → stored = found := by
  have hkeys := h.gives_storedKeys hmapped ((batch.map Prod.fst).filter fun id => !id.isNull)
  have hnamed (r : Record) : (∃ id ∈ (batch.map Prod.fst).filter fun id => !id.isNull, m.Names t id r) ↔
      ∃ o ∈ batch, m.Names t o.1 r := by
    constructor
    · rintro ⟨id, hid, hnames⟩
      obtain ⟨o, ho, rfl⟩ := List.mem_map.1 (List.mem_filter.1 hid).1
      exact ⟨o, ho, hnames⟩
    · rintro ⟨o, ho, hnames⟩
      refine ⟨o.1, List.mem_filter.2 ⟨List.mem_map_of_mem ho, ?_⟩, hnames⟩
      rw [hnames.isNull.1]
      rfl
  refine ⟨_, hkeys, fun e he => ?_⟩
  obtain ⟨found, hexists, hfound⟩ := h.gives_exists hshown e.1
  have hstored : (!e.1.isNull && (m.keysOf t ((batch.map Prod.fst).filter fun id => !id.isNull)).contains e.1.keyText) =
      true ↔ e.1.isNull = false ∧
        ∃ r ∈ t.records, (∃ o ∈ batch, m.Names t o.1 r) ∧ m.key? t r = some e.1.keyText := by
    rw [Bool.and_eq_true, Bool.not_eq_true', List.contains_iff_mem, Mapping.mem_keysOf]
    simp only [hnamed]
  refine ⟨found, hexists, hstored, hfound, fun type hholds hkeeps => ?_⟩
  rw [Bool.eq_iff_iff, hstored, hfound]
  constructor
  · rintro ⟨hnull, r, hr, ⟨o, -, hnames⟩, hkey⟩
    exact ⟨r, hr, (Mapping.names_iff_key? hholds hkeeps hnull hr hnames.isNull.2).2 hkey⟩
  · rintro ⟨r, hr, hnames⟩
    obtain ⟨hnull, hcell⟩ := hnames.isNull
    exact ⟨hnull, r, hr, ⟨e, he, hnames⟩, (Mapping.names_iff_key? hholds hkeeps hnull hr hcell).1 hnames⟩

private theorem shown_flags :
    ∀ r ∈ Sample.flagTable.records, (Storage.Sample.flags.row Storage.Sample.flags.columnNames r).isEmpty = false := by
  decide +kernel

/-- Of two flags known by an integer and by a numeral, the first is stored and the second is not. -/
theorem classifies_as_exists_of_flags :
    let batch := [Sample.flag (.int 1) true, Sample.flag (.text "2") true]
    ∃ keys, (Rows.storedKeys (Sample.flags false) ((batch.map Prod.fst).filter fun id => !id.isNull)).Gives
        Sample.flagConnection (.ok keys) Sample.flagConnection ∧
      keys.contains "1" = true ∧
      (Rows.exists (Sample.flags false) (.int 1)).Gives Sample.flagConnection (.ok true) Sample.flagConnection ∧
      keys.contains "2" = false ∧
      (Rows.exists (Sample.flags false) (.text "2")).Gives Sample.flagConnection (.ok false) Sample.flagConnection := by
  intro batch
  have hmapped := (Sample.serves_flags false).identified
  have hholds : Sample.flagTable.Holds (Sample.flags false).identity .integer := by
    refine ⟨⟨{ name := "flag_id", type := .integer }, by decide +kernel, rfl, rfl⟩, fun r hr => ?_⟩
    obtain rfl := List.mem_singleton.1 hr
    exact .inr ⟨.int 1, trivial, rfl⟩
  obtain ⟨keys, hkeys, heach⟩ := classifies_as_exists (Sample.serves_flags false).readable hmapped shown_flags batch
  obtain ⟨found, hexists, -, hfound, hsame⟩ := heach (Sample.flag (.int 1) true) List.mem_cons_self
  obtain ⟨found', hexists', -, hfound', hsame'⟩ :=
    heach (Sample.flag (.text "2") true) (List.mem_cons_of_mem _ List.mem_cons_self)
  obtain rfl : found = true := hfound.2 ⟨_, List.mem_cons_self, by decide +kernel⟩
  obtain rfl : found' = false := by
    rw [← Bool.not_eq_true, hfound']
    rintro ⟨r, hr, hnames⟩
    obtain rfl := List.mem_singleton.1 hr
    exact absurd hnames (by decide +kernel)
  exact ⟨keys, hkeys, hsame .integer hholds trivial, hexists, hsame' .integer hholds ⟨2, by decide⟩, hexists'⟩

/-- A flag that is stored under one exists for the truth value, whose key text is not among the keys. -/
theorem exists_not_classified_of_bool :
    ∃ keys, (Rows.storedKeys (Sample.flags false) [.bool true]).Gives Sample.flagConnection (.ok keys)
        Sample.flagConnection ∧
      keys.contains (Scalar.bool true).keyText = false ∧
      (Rows.exists (Sample.flags false) (.bool true)).Gives Sample.flagConnection (.ok true) Sample.flagConnection := by
  have hmapped := (Sample.serves_flags false).identified
  have hreadable := (Sample.serves_flags false).readable
  obtain ⟨found, hexists, hfound⟩ := hreadable.gives_exists shown_flags (.bool true)
  obtain rfl : found = true := hfound.2 ⟨_, List.mem_cons_self, by decide +kernel⟩
  refine ⟨_, hreadable.gives_storedKeys hmapped [.bool true], ?_, hexists⟩
  rw [← Bool.not_eq_true, List.contains_iff_mem, Mapping.mem_keysOf]
  rintro ⟨r, hr, -, hkey⟩
  obtain rfl := List.mem_singleton.1 hr
  exact absurd hkey (by decide +kernel)

end Readable

end CriteriaStore
