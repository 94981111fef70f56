import CriteriaStore.Proofs.Repository.Counting
import CriteriaStore.Proofs.Repository.Lookup
import CriteriaStore.Proofs.Repository.Sample

/-!
# Looking up against filtering

A look-up compares the identity column itself; a filter that asks for the same identity gets there by the property of that
column. Both select by the same condition (`condition_withValue`), and where the identity column tells the records apart, what
is found is the only row of the filter (`Readable.find_agrees_with_findBy`).

They part where the record shows nothing of what is asked for: the filter gives its row, which has no columns, and the
look-up takes that row for none (`Readable.find_misses_unreadable`).
-/

namespace CriteriaStore

open Storage (Connection Table Record)

variable {ε : Type}

/-- The filter of the records with a value of a property. -/
def Filter.withValue (property : String) (v : Scalar) : Filter :=
  Filter.empty.push .must .equals ⟨property, .scalar v⟩

/-- Asking for the value of the identity property is asking for the identity. -/
theorem Mapping.condition_withValue {m : Mapping ε} {property : String} {id : Scalar}
    (h : m.identityProperty = .ok property) (hid : id.isNull = false) (b : Bindings) :
    ∃ b', m.condition (some (Filter.withValue property id)) b = .ok (some (m.hasIdentity id), b') := by
  have hcolumn : m.properties.column property = .ok m.identity := by
    unfold PropertyMap.column
    rw [get?_of_identityProperty h]
  have hconditions : (Filter.withValue property id).conditions = [(.must, .equals, ⟨property, .scalar id⟩)] := rfl
  have hpredicate : Operator.equals.predicate? m.identity (.scalar id) = some (.compare m.identity .eq (.ofScalar id)) := by
    cases id with
    | null => cases hid
    | _ => rfl
  have happlied : Clause.must.applied .equals = .equals := rfl
  simp only [condition, Filter.compile, hconditions, Filter.predicates, Condition.predicate, hcolumn, happlied, hpredicate]
  exact ⟨_, rfl⟩

namespace Readable

variable {c : Connection} {m : Mapping ε} {t : Table} {property : String} {fields : Option FieldSet}
  {projection : Sql.Projection}

/-- Of a record that an identity names the identity is counted. -/
private theorem count_hasIdentity (m : Mapping ε) (t : Table) (id : Scalar) :
    t.count m.identity (some (m.hasIdentity id)) = (t.matching (some (m.hasIdentity id))).length := by
  rw [Table.count_eq_length_matching_iff]
  refine List.filter_eq_nil_iff.2 fun r hr => ?_
  rw [(Mapping.mem_matching_hasIdentity.1 hr).2.isNull.2]
  exact Bool.false_ne_true

/-- Of the records an identity selects the one that it names, or none. -/
private theorem exists_matching (hapart : t.Distinguishes m.identity) (id : Scalar) :
    ∃ found : Option Record, (∀ r, found = some r ↔ r ∈ t.records ∧ m.Names t id r) ∧
      t.matching (some (m.hasIdentity id)) = found.toList := by
  obtain hnone | ⟨before, r, after, hsingles⟩ := hapart.cases (.ofScalar id)
  · refine ⟨none, fun r => ⟨nofun, fun ⟨hr, hnames⟩ => ?_⟩, Table.matching_eq_nil hnone⟩
    exact absurd hnames (Mapping.selects_hasIdentity_eq_false.1 (hnone r hr))
  · have honly : t.matching (some (m.hasIdentity id)) = [r] := hsingles.matching
    refine ⟨some r, fun o => ?_, honly⟩
    rw [Option.some.injEq, eq_comm, ← List.mem_singleton, ← honly, Mapping.mem_matching_hasIdentity]

/-- Under an identity a record is found or none. The filter of the same identity gives its row, and counts it. A look-up gives
the same row unless it has no columns, and the record exists unless the row of all columns has none. Nothing is found under no
identity, whatever is stored, and nothing is removed. -/
theorem find_agrees_with_findBy (h : Readable c m t) (hproperty : m.identityProperty = .ok property)
    (hapart : t.Distinguishes m.identity) (hproj : Sql.Projection.ofFields m.properties fields = .ok projection)
    (id : Scalar) :
    (id.isNull = false → ∃ found : Option Record, (∀ r, found = some r ↔ r ∈ t.records ∧ m.Names t id r) ∧
      let row := t.schema.row (t.schema.asked projection)
      (Rows.findBy m (some (Filter.withValue property id)) none fields).Gives c (.ok (found.map row).toList) c ∧
      (Rows.count m (some (Filter.withValue property id))).Gives c (.ok (found.map row).toList.length) c ∧
      (Rows.find m id fields).Gives c (.ok ((found.map row).filter fun row => !row.isEmpty)) c ∧
      (Rows.exists m id).Gives c (.ok (found.any fun r => !(t.schema.row t.schema.columnNames r).isEmpty)) c) ∧
    (id.isNull = true → ∀ c : Connection, (Rows.find m id fields).Gives c (.ok none) c ∧
      (Rows.exists m id).Gives c (.ok false) c ∧ (Rows.erase m id).Gives c (.ok 0) c) := by
  refine ⟨fun hid => ?_, fun hid c => ⟨?_, ?_, ?_⟩⟩
  · obtain ⟨found, hfound, hmatching⟩ := exists_matching hapart id
    obtain ⟨b, hcondition⟩ := Mapping.condition_withValue hproperty hid {}
    -- the filter selects by the condition of the look-up, so all reads are about the same matching records
    have hselection : m.selection projection (some (Filter.withValue property id)) none {} =
        .ok ({ table := m.table, projection, condition := some (m.hasIdentity id) }, b) :=
      Mapping.selection_eq_ok.2 ⟨_, [], hcondition, rfl, rfl⟩
    have hfindBy := h.gives_findBy hproj hselection
    have hcount := h.gives_count hcondition
    have hfind := h.gives_find_unless_empty hid hproj
    have hexists := h.gives_exists_unless_empty id
    rw [hmatching, Option.head?_toList] at hfind hexists
    have hrows (row : Record → Row) : (Storage.stretch none none found.toList).map row = (found.map row).toList := by
      cases found <;> rfl
    rw [t.rows_of_plain rfl (Sql.Projection.of_ofFields hproj).1, hmatching, hrows] at hfindBy
    have hlength (row : Record → Row) : found.toList.length = (found.map row).toList.length := by
      cases found <;> rfl
    rw [count_hasIdentity, hmatching, hlength] at hcount
    exact ⟨found, hfound, hfindBy, hcount, hfind, hexists⟩
  · exact Rows.gives_find_null hid
  · exact (Rows.gives_find_null hid).bind (Action.gives_pure _ _)
  · unfold Rows.erase
    rw [hid]
    exact Action.gives_pure _ _

/-- Of two flags the first one is known by the integer that stands for true. -/
theorem find_agrees_with_findBy_of_flags :
    let first : Record := OrderedMap.ofList [("flag_id", .int 1), ("is_on", .int 1)]
    let second : Record := OrderedMap.ofList [("flag_id", .int 2), ("is_on", .real 2.5)]
    let c : Connection := { database := { tables := [Sample.flagsOf [first, second]] } }
    let fields := FieldSet.ofList ["on"]
    (∃ row : Row,
      (Rows.findBy (Sample.flags false) (some (Filter.withValue "id" (.bool true))) none (some fields)).Gives c
        (.ok [row]) c ∧
      (Rows.count (Sample.flags false) (some (Filter.withValue "id" (.bool true)))).Gives c (.ok 1) c ∧
      (Rows.find (Sample.flags false) (.bool true) (some fields)).Gives c (.ok (some row)) c ∧
      (Rows.exists (Sample.flags false) (.bool true)).Gives c (.ok true) c) ∧
    (Rows.find (Sample.flags false) .null (some fields)).Gives c (.ok none) c := by
  intro first second c fields
  let t := Sample.flagsOf [first, second]
  have h : Readable c (Sample.flags false) t := Sample.readable_flags [first, second]
  have hapart : t.Distinguishes (Sample.flags false).identity := by
    unfold Table.Distinguishes
    decide +kernel
  have hproj : Sql.Projection.ofFields (Sample.flags false).properties (some fields) = .ok (.columns ["is_on"]) := rfl
  have hagrees (id : Scalar) := find_agrees_with_findBy h rfl hapart hproj id
  obtain ⟨found, hfound, hfindBy, hcount, hfind, hexists⟩ := (hagrees (.bool true)).1 rfl
  obtain rfl : found = some first := by
    exact (hfound first).2 ⟨List.mem_cons_self, by decide +kernel⟩
  have hshown : (t.schema.row (t.schema.asked (.columns ["is_on"])) first).isEmpty = false := by decide +kernel
  have hwhole : (t.schema.row t.schema.columnNames first).isEmpty = false := by decide +kernel
  rw [Option.map_some, Option.filter_some, hshown] at hfind
  rw [Option.any_some, hwhole] at hexists
  exact ⟨⟨_, hfindBy, hcount, hfind, hexists⟩, ((hagrees .null).2 rfl c).1⟩

/-- The value of the only flag cannot be read: a look-up of it alone finds nothing, where the filter gives a row. -/
theorem find_misses_unreadable :
    let flag : Record := OrderedMap.ofList [("flag_id", .int 1), ("is_on", .real 2.5)]
    let c : Connection := { database := { tables := [Sample.flagsOf [flag]] } }
    let fields := FieldSet.ofList ["on"]
    (∃ row : Row,
      (Rows.findBy (Sample.flags false) (some (Filter.withValue "id" (.int 1))) none (some fields)).Gives c
        (.ok [row]) c) ∧
    (Rows.find (Sample.flags false) (.int 1) (some fields)).Gives c (.ok none) c ∧
    (Rows.exists (Sample.flags false) (.int 1)).Gives c (.ok true) c := by
  intro flag c fields
  let t := Sample.flagsOf [flag]
  have h : Readable c (Sample.flags false) t := Sample.readable_flags [flag]
  have hid : (Scalar.int 1).isNull = false := rfl
  have hproj : Sql.Projection.ofFields (Sample.flags false).properties (some fields) = .ok (.columns ["is_on"]) := rfl
  have hmatching : t.matching (some ((Sample.flags false).hasIdentity (.int 1))) = [flag] :=
    (Table.Singles.of_records rfl (by decide +kernel)).matching
  have hselection : (Sample.flags false).selection (.columns ["is_on"]) (some (Filter.withValue "id" (.int 1))) none {} =
      .ok ({ table := "flags", projection := .columns ["is_on"],
             condition := some ((Sample.flags false).hasIdentity (.int 1)) }, _) := rfl
  have hfindBy := h.gives_findBy hproj hselection
  have hfind := h.gives_find_unless_empty hid hproj
  have hexists := h.gives_exists_unless_empty (.int 1)
  rw [t.rows_of_plain rfl rfl, hmatching] at hfindBy
  have hhidden : (t.schema.row (t.schema.asked (.columns ["is_on"])) flag).isEmpty := by decide +kernel
  rw [hmatching, List.head?_cons, Option.map_some, Option.filter_some, hhidden] at hfind
  have hwhole : (t.schema.row t.schema.columnNames flag).isEmpty = false := by decide +kernel
  rw [hmatching, List.head?_cons, Option.any_some, hwhole] at hexists
  exact ⟨⟨_, hfindBy⟩, hfind, hexists⟩

end Readable

end CriteriaStore
