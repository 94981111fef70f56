import CriteriaStore.Proofs.Storage.Changing

/-!
# Writing to keyed tables

What the two kinds of writes make of a keyed table. An update by identity changes the record with that identity and
no other one (`overwrite_eq_changed`); an insertion under an identity that is not stored adds one record at the end (`insert_eq`),
and one under an identity that is stored is refused (`insert_eq_duplicateKey`). Both leave the table keyed, and only
the insertion changes which identities are stored.
-/

namespace CriteriaStore

namespace Storage

variable {identity : String} {type : ColumnType}

/-! ### Assigned columns -/

/-- Assignments with their columns; a name without column is left out. -/
def Schema.assigns (s : Schema) (assignments : List (String × Cell)) : List (Column × Cell) :=
  assignments.filterMap fun a => (s.column? a.1).map fun c => (c, a.2)

theorem Schema.WellFormed.mem_assigns {s : Schema} (hs : s.WellFormed) {assignments : List (String × Cell)}
    (h : ∀ a ∈ assignments, a.1 ∈ s.columnNames) {x : Column × Cell} :
    x ∈ s.assigns assignments ↔ x.1 ∈ s.columns ∧ (x.1.name, x.2) ∈ assignments := by
  unfold assigns
  rw [List.mem_filterMap]
  constructor
  · rintro ⟨⟨name, v⟩, ha, hx⟩
    obtain ⟨c, hc, rfl⟩ := List.mem_map.1 (h _ ha)
    rw [hs.column?_name hc] at hx
    obtain rfl := Option.some.inj hx
    exact ⟨hc, ha⟩
  · rintro ⟨hc, ha⟩
    exact ⟨_, ha, by rw [hs.column?_name hc]; rfl⟩

/-- The declaration of a keyed table demands something of the identity column alone. -/
theorem Schema.KeyedBy.eq_of_guards {s : Schema} (hs : s.KeyedBy identity type) {column : String}
    (h : s.Guards column) : column = identity := by
  obtain rfl | ⟨c, hc, rfl, hdemands⟩ := h
  · exact hs.key
  · by_contra hne
    obtain ⟨hrequired, hunique⟩ := hs.unconstrained c hc hne
    simp [hrequired, hunique] at hdemands

namespace Table

variable {t : Table} {id : Scalar}

theorem resolve_eq_ok (hs : t.schema.WellFormed) {assignments : List (String × Cell)}
    (h : ∀ a ∈ assignments, a.1 ∈ t.schema.columnNames) :
    t.resolve assignments = .ok (t.schema.assigns assignments) := by
  induction assignments with
  | nil => rfl
  | cons a rest ih =>
    obtain ⟨name, v⟩ := a
    obtain ⟨c, hc, rfl⟩ := List.mem_map.1 (h (name, v) List.mem_cons_self)
    have hrest := ih fun a ha => h a (List.mem_cons_of_mem _ ha)
    have hassigns : t.schema.assigns ((c.name, v) :: rest) = (c, v) :: t.schema.assigns rest := by
      simp [Schema.assigns, hs.column?_name hc]
    rw [hassigns]
    simp only [resolve, hs.column?_name hc, hrest]

/-! ### Overwriting -/

/-- The table with values assigned to the record with an identity. -/
def overwrite (t : Table) (id : Scalar) (assignments : List (Column × Cell)) : Table :=
  { t with records := t.records.map fun r =>
    if (Record.cell r t.schema.key).same (Cell.ofScalar id) then assign assignments r else r }

theorem Keyed.distinguishes (h : t.Keyed identity type) : t.Distinguishes identity := by
  have hapart := h.records.nodup
  unfold List.Nodup at hapart
  rw [List.pairwise_map] at hapart
  refine List.Pairwise.imp_of_mem ?_ hapart
  intro a b ha hb hne hyes
  rw [h.schema.cell_identity, h.schema.cell_identity, Cell.compare_eq_yes] at hyes
  obtain ⟨id, hid, he⟩ := h.records.owned b hb
  rw [he, h.records.same_iff ha hid, ← he] at hyes
  exact hne hyes.2.2

theorem Keyed.sound (h : t.Keyed identity type) : t.Sound := by
  intro before r after hsplit
  have hrecords := (hsplit ▸ h.records).perm List.perm_middle
  obtain ⟨id, hid, hr⟩ := hrecords.owned r List.mem_cons_self
  refine ⟨Keyed.keyFits h.schema hid hr, Keyed.violation?_eq_none h.schema hid hr fun o ho hsame => ?_⟩
  have hnotmem : Record.cell r identity ∉ (before ++ after).map fun r => Record.cell r identity :=
    (List.nodup_cons.1 hrecords.nodup).1
  rw [hrecords.same_iff (List.mem_cons_of_mem _ ho) hid, ← hr] at hsame
  exact hnotmem (hsame ▸ List.mem_map_of_mem ho)

theorem Keyed.overwrite_eq_changed (h : t.Keyed identity type) (hid : type.Owns id)
    (assignments : List (Column × Cell)) :
    t.overwrite id assignments = t.changed (some (.single (.compare identity .eq (.ofScalar id)))) assignments := by
  unfold Table.overwrite changed
  congr 1
  refine List.map_congr_left fun r hr => ?_
  rw [h.schema.selects_identity hid, h.schema.key]

theorem Keyed.overwrite (h : t.Keyed identity type) {assignments : List (Column × Cell)}
    (ha : ∀ a ∈ assignments, a.1.name ≠ identity) : (t.overwrite id assignments).Keyed identity type where
  schema := h.schema
  records := by
    refine h.records.map fun r => ?_
    split
    · exact cell_assign ha r
    · rfl

theorem Keyed.has_overwrite (h : t.Keyed identity type) {assignments : List (Column × Cell)}
    (ha : ∀ a ∈ assignments, a.1.name ≠ identity) {id' : Scalar} (hid' : type.Owns id') :
    (t.overwrite id assignments).has id' = t.has id' := by
  have hcell (r : Record) : Record.cell (if (Record.cell r t.schema.key).same (Cell.ofScalar id) then
      assign assignments r else r) identity = Record.cell r identity := by
    split
    · exact cell_assign ha r
    · rfl
  rw [Bool.eq_iff_iff, (h.overwrite ha).has_iff hid', h.has_iff hid']
  constructor
  · rintro ⟨r', hr', he⟩
    obtain ⟨r, hr, rfl⟩ := List.mem_map.1 hr'
    exact ⟨r, hr, (hcell r).symm.trans he⟩
  · rintro ⟨r, hr, he⟩
    exact ⟨_, List.mem_map_of_mem hr, (hcell r).trans he⟩

theorem not_same_of_not_has (h : t.has id = false) :
    ∀ r ∈ t.records, ¬(Record.cell r t.schema.key).same (Cell.ofScalar id) := by
  unfold has stored? at h
  rwa [Option.isSome_eq_false_iff, Option.isNone_iff_eq_none, List.find?_eq_none] at h

/-- Without a record of the identity there is nothing to overwrite. -/
theorem overwrite_of_not_has {assignments : List (Column × Cell)} (h : t.has id = false) :
    t.overwrite id assignments = t := by
  have hmap : (t.records.map fun r =>
      if (Record.cell r t.schema.key).same (Cell.ofScalar id) then assign assignments r else r) = t.records := by
    rw [List.map_congr_left fun r hr => if_neg (not_same_of_not_has h r hr), List.map_id']
  unfold overwrite
  rw [hmap]

/-! ### Appending -/

/-- The table with a record added at the end. -/
def appended (t : Table) (r : Record) : Table :=
  { t with
    records := t.records ++ [r]
    lastNumber := match t.numberOf? r with
      | some n => max t.lastNumber n.toInt
      | none => t.lastNumber }

@[simp] theorem appended_schema (t : Table) (r : Record) : (t.appended r).schema = t.schema := rfl

/-- Which of several values counts depends on the kind of the key; here they are all the same. -/
private theorem assigned?_eq_some {assignments : List (Column × Cell)} {c : Column} {v : Cell}
    (hall : ∀ a ∈ assignments, a.1.name = c.name → a.2 = v) (hsome : ∃ a ∈ assignments, a.1.name = c.name) :
    t.assigned? assignments c = some v := by
  have hvalues : ∀ x ∈ (assignments.filter fun a => a.1.name = c.name).map Prod.snd, x = v := by
    intro x hx
    obtain ⟨a, ha, rfl⟩ := List.mem_map.1 hx
    rw [List.mem_filter, decide_eq_true_eq] at ha
    exact hall a ha.1 ha.2
  have hne : (assignments.filter fun a => a.1.name = c.name).map Prod.snd ≠ [] := by
    obtain ⟨a, ha, he⟩ := hsome
    refine List.ne_nil_of_mem (List.mem_map_of_mem (f := Prod.snd) (a := a) ?_)
    rw [List.mem_filter, decide_eq_true_eq]
    exact ⟨ha, he⟩
  unfold assigned?
  split
  · rw [List.getLast?_eq_some_getLast hne, hvalues _ (List.getLast_mem hne)]
  · rw [List.head?_eq_some_head hne, hvalues _ (List.head_mem hne)]

private theorem get?_recordOf (hs : t.schema.WellFormed) (assignments : List (Column × Cell)) {column : String}
    {v : Cell} :
    (t.recordOf assignments).get? column = some v ↔
      ∃ c ∈ t.schema.columns, c.name = column ∧ (t.assigned? assignments c).elim .null c.type.store = v := by
  have hnodup : ((t.schema.columns.map fun c =>
      (c.name, (t.assigned? assignments c).elim Cell.null c.type.store)).map Prod.fst).Nodup := by
    rw [List.map_map]
    exact hs.nodup_columnNames
  rw [OrderedMap.get?_eq_some_iff]
  unfold recordOf
  rw [OrderedMap.entries_ofList hnodup, List.mem_map]
  simp only [Prod.mk.injEq]

/-- A new record holds what a column stores of the assigned value, when several assignments agree. -/
theorem cell_recordOf_of_mem (hs : t.schema.WellFormed) {assignments : List (Column × Cell)} {a : Column × Cell}
    (hcolumn : a.1 ∈ t.schema.columns) (ha : a ∈ assignments)
    (hall : ∀ b ∈ assignments, b.1.name = a.1.name → b = a) :
    Record.cell (t.recordOf assignments) a.1.name = a.1.type.store a.2 := by
  have hassigned : t.assigned? assignments a.1 = some a.2 :=
    assigned?_eq_some (fun b hb hname => by rw [hall b hb hname]) ⟨a, ha, rfl⟩
  have hget : (t.recordOf assignments).get? a.1.name = some (a.1.type.store a.2) := by
    rw [get?_recordOf hs]
    exact ⟨a.1, hcolumn, rfl, by rw [hassigned, Option.elim_some]⟩
  unfold Record.cell
  rw [hget]
  rfl

/-- A record with a new identity, which it has or which is its number, is added. -/
theorem insert_eq_of_numbered (hs : t.schema.KeyedBy identity type) (hid : type.Owns id)
    {assignments : List (Column × Cell)} {r : Record} (hnumbered : t.numbered (t.recordOf assignments) = .ok r)
    (hr : Record.cell r identity = Cell.ofScalar id) (hnew : t.has id = false) :
    t.insert assignments = .ok (t.appended r, r) := by
  have hothers := not_same_of_not_has hnew
  rw [hs.key] at hothers
  unfold insert
  rw [hnumbered]
  simp only [Keyed.keyFits hs hid hr, Keyed.violation?_eq_none hs hid hr hothers]
  rfl

private theorem numbered_eq_self (hs : t.schema.KeyedBy identity type) (hid : type.Owns id) {r : Record}
    (hr : Record.cell r identity = Cell.ofScalar id) : t.numbered r = .ok r := by
  unfold numbered
  rw [hs.key, hr, hid.isNull_ofScalar]
  simp

/-- An insertion under an identity that is not stored adds the record of its assignments. -/
theorem insert_eq (hs : t.schema.KeyedBy identity type) (hid : type.Owns id) {assignments : List (Column × Cell)}
    (hr : Record.cell (t.recordOf assignments) identity = Cell.ofScalar id) (hnew : t.has id = false) :
    t.insert assignments = .ok (t.appended (t.recordOf assignments), t.recordOf assignments) :=
  insert_eq_of_numbered hs hid (numbered_eq_self hs hid hr) hr hnew

/-- A record under an identity that is stored is not added. -/
theorem Keyed.insert_eq_duplicateKey (h : t.Keyed identity type) (hid : type.Owns id)
    {assignments : List (Column × Cell)} (hr : Record.cell (t.recordOf assignments) identity = Cell.ofScalar id)
    (hhas : t.has id) : t.insert assignments = .error (.duplicateKey t.schema.name identity) := by
  obtain ⟨o, ho, hsame⟩ := (h.has_iff hid).1 hhas
  unfold insert
  rw [numbered_eq_self h.schema hid hr]
  simp only [Keyed.keyFits h.schema hid hr, Keyed.violation?_eq_duplicateKey h.schema hid hr ho hsame]
  rfl

theorem Keyed.appended (h : t.Keyed identity type) (hid : type.Owns id) {r : Record}
    (hr : Record.cell r identity = Cell.ofScalar id) (hnew : t.has id = false) :
    (t.appended r).Keyed identity type where
  schema := h.schema
  records := by
    refine h.records.append hid hr fun o ho he => ?_
    have := (h.has_iff hid).2 ⟨o, ho, he⟩
    simp [hnew] at this

theorem Keyed.has_appended (h : t.Keyed identity type) (hid : type.Owns id) {r : Record}
    (hr : Record.cell r identity = Cell.ofScalar id) (hnew : t.has id = false) {id' : Scalar} (hid' : type.Owns id') :
    (t.appended r).has id' ↔ t.has id' ∨ id' = id := by
  rw [(h.appended hid hr hnew).has_iff hid', h.has_iff hid']
  show (∃ o ∈ t.records ++ [r], _) ↔ _
  simp only [List.mem_append, List.mem_singleton, or_and_right, exists_or, exists_eq_left, hr,
    hid.ofScalar_inj hid', eq_comm (a := id)]

/-! ### Order of writes -/

/-- Overwriting the records of two identities works in either order. -/
theorem Keyed.overwrite_overwrite (h : t.Keyed identity type) {id' : Scalar} (hid : type.Owns id)
    (hid' : type.Owns id') (hne : id ≠ id') {as bs : List (Column × Cell)} (ha : ∀ a ∈ as, a.1.name ≠ identity)
    (hb : ∀ a ∈ bs, a.1.name ≠ identity) :
    (t.overwrite id as).overwrite id' bs = (t.overwrite id' bs).overwrite id as := by
  unfold Table.overwrite
  simp only [List.map_map, h.schema.key]
  congr 1
  refine List.map_congr_left fun r hr => ?_
  have hcell (cs : List (Column × Cell)) (hc : ∀ a ∈ cs, a.1.name ≠ identity) :
      Record.cell (assign cs r) identity = Record.cell r identity := cell_assign hc r
  simp only [Function.comp_apply]
  by_cases hs : (Record.cell r identity).same (Cell.ofScalar id)
  · have hs' : ¬(Record.cell r identity).same (Cell.ofScalar id') := by
      intro hs'
      rw [h.records.same_iff hr hid] at hs
      rw [h.records.same_iff hr hid', hs, hid.ofScalar_inj hid'] at hs'
      exact hne hs'
    simp only [hs, hs', if_true, Bool.false_eq_true, if_false, hcell as ha]
  · by_cases hs' : (Record.cell r identity).same (Cell.ofScalar id')
    · simp only [hs, hs', if_true, Bool.false_eq_true, if_false, hcell bs hb]
    · simp only [hs, hs', Bool.false_eq_true, if_false]

/-- Overwriting a stored record and adding one under another identity work in either order. -/
theorem Keyed.overwrite_appended (h : t.Keyed identity type) {id' : Scalar} (hid : type.Owns id)
    (hid' : type.Owns id') (hne : id ≠ id') {r : Record} (hr : Record.cell r identity = Cell.ofScalar id)
    (bs : List (Column × Cell)) :
    (t.appended r).overwrite id' bs = (t.overwrite id' bs).appended r := by
  have hother : ¬(Record.cell r t.schema.key).same (Cell.ofScalar id') := by
    rw [h.schema.key, hr, hid.same_iff hid']
    exact hne
  unfold Table.overwrite Table.appended
  simp only [List.map_append, List.map_singleton, hother, Bool.false_eq_true, if_false]
  rfl

end Table

end Storage

end CriteriaStore
