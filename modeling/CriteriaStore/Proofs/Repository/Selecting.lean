import CriteriaStore.Proofs.Criteria.Binding
import CriteriaStore.Proofs.Repository.Running
import CriteriaStore.Proofs.Storage.Reading
import CriteriaStore.Proofs.Storage.Replacing
import CriteriaStore.Repository.Paging

/-!
# Selecting rows

The statements that read the table of a mapping. Criteria name columns of the mapping only (`mem_columns_of_compile`),
and a selection is the same whatever was bound before it (`selection_of_bindings`).

On a connection that can read the table (`Readable`), selecting and counting do not fail once the criteria are compiled,
and leave the connection as it is (`gives_findBy`, `gives_find`, `gives_page`).
-/

namespace CriteriaStore

open Storage (Connection Table Database)

variable {ε : Type}

/-! ### Columns of criteria -/

section Columns

variable {properties : PropertyMap}

theorem PropertyMap.mem_columns_of_column {property column : String} (h : properties.column property = .ok column) :
    column ∈ properties.columns := by
  unfold PropertyMap.column at h
  split at h
  · next hget =>
    obtain rfl := Except.ok.inj h
    exact List.mem_map_of_mem (f := Prod.snd) (OrderedMap.get?_eq_some_iff.1 hget)
  · cases h

theorem PropertyMap.mem_columns_of_select {fields : FieldSet} {names : List String}
    (h : properties.select fields = .ok names) {name : String} (hname : name ∈ names) : name ∈ properties.columns := by
  unfold select at h
  split at h
  · cases h
  · obtain rfl := Except.ok.inj h
    obtain ⟨e, he, rfl⟩ := List.mem_map.1 hname
    exact List.mem_map_of_mem (List.mem_filter.1 he).1

/-- A projection to fields keeps repeated rows, and names columns of the mapping. -/
theorem Sql.Projection.of_ofFields {fields : Option FieldSet} {projection : Sql.Projection}
    (h : Sql.Projection.ofFields properties fields = .ok projection) :
    Storage.isDistinct projection = false ∧ ∀ n ∈ projection.names, n ∈ properties.columns := by
  unfold ofFields at h
  split at h
  · obtain rfl := Except.ok.inj h
    exact ⟨rfl, by simp [names]⟩
  · split at h
    · obtain rfl := Except.ok.inj h
      exact ⟨rfl, by simp [names]⟩
    · split at h
      · next hselect =>
        obtain rfl := Except.ok.inj h
        exact ⟨rfl, fun n hn => PropertyMap.mem_columns_of_select hselect hn⟩
      · cases h

theorem Operator.column_of_predicate? {op : Operator} {column : String} {operand : Operand} {p : Sql.Predicate}
    (h : op.predicate? column operand = some p) : p.column = column := by
  have hmatching {negated : Bool} {a : Anchor} {v : Scalar} (h : matching? column negated a v = some p) :
      p.column = column := by
    cases v <;> cases h <;> rfl
  unfold predicate? at h
  split at h
  all_goals
    first
      | exact hmatching h
      | cases h <;> rfl

namespace Filter

theorem mem_columns_of_translate {x : Clause × Operator × Condition} {q : Clause × Sql.Predicate}
    (h : translate properties x = .ok q) : q.2.column ∈ properties.columns := by
  obtain ⟨column, hcolumn, hpredicate⟩ := Condition.predicate_eq_ok.1 (translate_eq_ok.1 h).2
  rw [Operator.column_of_predicate? hpredicate]
  exact PropertyMap.mem_columns_of_column hcolumn

private theorem columns_combine (ps : List (Clause × Sql.Predicate)) {n : String}
    (hn : n ∈ Sql.conditionNames (combine ps)) : ∃ q ∈ ps, q.2.column = n := by
  have hof? (xs ys : List Sql.Predicate) :
      Sql.conditionNames (Sql.Where.of? xs ys) = (xs ++ ys).map Sql.Predicate.column := by
    cases xs with
    | nil => cases ys <;> rfl
    | cons x xs => rfl
  unfold combine at hn
  rw [hof?, ← List.map_append, List.map_map] at hn
  obtain ⟨q, hq, rfl⟩ := List.mem_map.1 hn
  refine ⟨q, ?_, rfl⟩
  rcases List.mem_append.1 hq with h | h
  · exact (List.mem_filter.1 h).1
  · exact (List.mem_filter.1 h).1

/-- The condition of a filter names columns of the mapping. -/
theorem mem_columns_of_compile {f : Filter} {b b' : Bindings} {condition : Option Sql.Where}
    (h : f.compile properties b = (.ok condition, b')) : ∀ n ∈ Sql.conditionNames condition, n ∈ properties.columns := by
  obtain ⟨ps, hps, rfl, -⟩ := exists_of_compile_ok h
  intro n hn
  obtain ⟨q, hq, rfl⟩ := columns_combine ps hn
  obtain ⟨x, -, hx⟩ := exists_of_mem_mapM_ok hps hq
  exact mem_columns_of_translate hx

end Filter

theorem SortOrder.mem_columns_of_terms {s : SortOrder} {terms : List Sql.OrderTerm}
    (h : s.terms properties = .ok terms) {t : Sql.OrderTerm} (ht : t ∈ terms) : t.column ∈ properties.columns := by
  obtain ⟨k, -, hk⟩ := exists_of_mem_mapM_ok h ht
  cases hcolumn : PropertyMap.column properties k.property with
  | error e => simp [hcolumn, bind, Except.bind] at hk
  | ok column =>
    obtain rfl : (⟨column, k.direction⟩ : Sql.OrderTerm) = t := by
      simpa [hcolumn, bind, Except.bind, pure, Except.pure] using hk
    exact PropertyMap.mem_columns_of_column hcolumn

end Columns

/-! ### Selections -/

namespace Mapping

variable {m : Mapping ε} {projection : Sql.Projection} {filter : Option Filter} {sort : Option SortOrder}
  {condition : Option Sql.Where} {q : Sql.Select} {b b' : Bindings}

theorem condition_some_eq_ok {f : Filter} :
    m.condition (some f) b = .ok (condition, b') ↔ f.compile m.properties b = (.ok condition, b') := by
  unfold Mapping.condition
  simp only
  rcases f.compile m.properties b with ⟨e | w, b''⟩ <;> simp

theorem condition_of_bindings (h : m.condition filter b = .ok (condition, b')) (b₁ : Bindings) :
    ∃ b₂, m.condition filter b₁ = .ok (condition, b₂) := by
  cases filter with
  | none =>
    cases h
    exact ⟨b₁, rfl⟩
  | some f =>
    rw [condition_some_eq_ok] at h
    have hsame : (f.compile m.properties b).1 = (f.compile m.properties b₁).1 := f.compile_fst b b₁
    rw [h] at hsame
    exact ⟨(f.compile m.properties b₁).2, condition_some_eq_ok.2 (Prod.ext hsame.symm rfl)⟩

theorem mem_columns_of_condition (h : m.condition filter b = .ok (condition, b')) :
    ∀ n ∈ Sql.conditionNames condition, n ∈ m.properties.columns := by
  cases filter with
  | none =>
    cases h
    simp [Sql.conditionNames]
  | some f => exact Filter.mem_columns_of_compile (condition_some_eq_ok.1 h)

/-- A selection puts the condition of the filter and the columns of the sort order together. -/
theorem selection_eq_ok :
    m.selection projection filter sort b = .ok (q, b') ↔
      ∃ condition terms, m.condition filter b = .ok (condition, b') ∧
        (sort.getD {}).terms m.properties = .ok terms ∧
        q = { table := m.table, projection, condition, order := terms } := by
  unfold selection Sql.Select.orderBy
  rcases m.condition filter b with e | ⟨condition, b''⟩
  · simp
  · cases (sort.getD {}).terms m.properties with
    | error e => simp
    | ok terms =>
      simp only [List.nil_append, Except.ok.injEq, Prod.mk.injEq]
      constructor
      · rintro ⟨rfl, rfl⟩
        exact ⟨condition, terms, ⟨rfl, rfl⟩, rfl, rfl⟩
      · rintro ⟨_, _, ⟨rfl, rfl⟩, rfl, rfl⟩
        exact ⟨rfl, rfl⟩

/-- What is selected does not depend on what was bound before. -/
theorem selection_of_bindings (h : m.selection projection filter sort b = .ok (q, b')) (b₁ : Bindings) :
    ∃ b₂, m.selection projection filter sort b₁ = .ok (q, b₂) := by
  obtain ⟨condition, terms, hcondition, hterms, rfl⟩ := selection_eq_ok.1 h
  obtain ⟨b₂, hb₂⟩ := condition_of_bindings hcondition b₁
  exact ⟨b₂, selection_eq_ok.2 ⟨condition, terms, hb₂, hterms, rfl⟩⟩

/-- The same is selected whatever is projected. -/
theorem selection_projection (h : m.selection projection filter sort b = .ok (q, b')) (p : Sql.Projection) :
    q.projection = projection ∧ m.selection p filter sort b = .ok ({ q with projection := p }, b') := by
  obtain ⟨condition, terms, hcondition, hterms, rfl⟩ := selection_eq_ok.1 h
  exact ⟨rfl, selection_eq_ok.2 ⟨condition, terms, hcondition, hterms, rfl⟩⟩

end Mapping

theorem Rows.gives_find_null {m : Mapping ε} {fields : Option FieldSet} {c : Connection} {id : Scalar}
    (hid : id.isNull = true) : (find m id fields).Gives c (.ok none) c := by
  unfold find
  rw [hid]
  exact Action.gives_pure none c

/-- Without different rows to ask for, a page selects the fields. -/
theorem Rows.pageProjection_eq {m : Mapping ε} {r : PageRequest} (h : ∀ d, r.distinct = some d → d.isEmpty) :
    pageProjection m r = Sql.Projection.ofFields m.properties r.fields := by
  unfold pageProjection
  cases hd : r.distinct with
  | none => rfl
  | some d => simp [h d hd]

/-! ### Reading a table -/

/-- A connection on which a mapping can read its table. -/
structure Readable (c : Connection) (m : Mapping ε) (t : Table) : Prop where
  readable : c.database.readable m.table = .ok t
  /-- No name ends a statement early. -/
  noZero : ∀ name ∈ m.table :: m.identity :: m.properties.columns, name.contains '\x00' = false
  /-- A mapped column that is called like a count is there. -/
  countable : ∀ column ∈ m.properties.columns,
    Storage.sameName column Database.countName → (t.schema.column? column).isSome

namespace Readable

/-- A mapping of declared columns can read its table when no name has a zero character. -/
theorem of_declared {c : Connection} {m : Mapping ε} {t : Table} (hreadable : c.database.readable m.table = .ok t)
    (hzero : ∀ name ∈ m.table :: m.identity :: m.properties.columns, '\x00' ∉ name.toList)
    (hdeclared : ∀ column ∈ m.properties.columns, (t.schema.column? column).isSome) : Readable c m t where
  readable := hreadable
  noZero name hname := Storage.Schema.noZero_of_notMem (hzero name hname)
  countable column hcolumn _ := hdeclared column hcolumn

variable {c : Connection} {m : Mapping ε} {t : Table} {projection : Sql.Projection} {filter : Option Filter}
  {sort : Option SortOrder} {fields : Option FieldSet} {condition : Option Sql.Where} {q : Sql.Select}
  {b b' : Bindings}

theorem checkNames_eq_ok (h : Readable c m t) {names : List String}
    (hnames : ∀ n ∈ names, n = m.table ∨ n = m.identity ∨ n ∈ m.properties.columns) :
    Database.checkNames names = .ok () := by
  apply Database.checkNames_eq_ok
  intro n hn
  apply h.noZero
  simpa only [List.mem_cons] using hnames n hn

/-- A compiled selection of mapped columns is carried out, whatever stretch of it is asked for. -/
theorem rows_eq_ok (h : Readable c m t) (hcolumns : ∀ n ∈ projection.names, n ∈ m.properties.columns)
    (hq : m.selection projection filter sort b = .ok (q, b')) (limit offset : Option UInt64) :
    c.database.rows { q with limit, offset } = .ok (t.rows { q with limit, offset }) := by
  obtain ⟨condition, terms, hcondition, hterms, rfl⟩ := Mapping.selection_eq_ok.1 hq
  apply Database.rows_eq_ok
  · apply h.checkNames_eq_ok
    intro n hn
    have hcases : n ∈ projection.names ∨ n = m.table ∨ n ∈ Sql.conditionNames condition ∨
        n ∈ terms.map Sql.OrderTerm.column := by
      simpa only [Sql.Select.names, List.mem_append, List.mem_cons, or_assoc] using hn
    rcases hcases with hn | rfl | hn | hn
    · exact .inr (.inr (hcolumns n hn))
    · exact .inl rfl
    · exact .inr (.inr (Mapping.mem_columns_of_condition hcondition n hn))
    · obtain ⟨term, hterm, rfl⟩ := List.mem_map.1 hn
      exact .inr (.inr (SortOrder.mem_columns_of_terms hterms hterm))
  · exact h.readable

/-- The count of a compiled condition is carried out. -/
theorem count_eq_ok (h : Readable c m t) (hcondition : m.condition filter b = .ok (condition, b')) :
    c.database.count m.table m.identity condition = .ok (t.count m.identity condition) := by
  have hcolumns := Mapping.mem_columns_of_condition hcondition
  apply Database.count_eq_ok
  · apply h.checkNames_eq_ok
    intro n hn
    simp only [List.mem_cons] at hn
    rcases hn with rfl | rfl | hn
    · exact .inr (.inl rfl)
    · exact .inl rfl
    · exact .inr (.inr (hcolumns n hn))
  · exact h.readable
  · unfold Database.namesCount
    rw [List.any_eq_false]
    intro n hn
    have hcountable := h.countable n (hcolumns n hn)
    cases hsame : Storage.sameName n Database.countName with
    | false => simp
    | true => simp [Option.isNone_eq_false_iff.2 (hcountable hsame)]

/-- A compiled selection of mapped columns gives its rows. -/
private theorem gives_selected (h : Readable c m t) (hcolumns : ∀ n ∈ projection.names, n ∈ m.properties.columns)
    (hq : m.selection projection filter sort {} = .ok (q, b)) :
    (do
      let (q, b) ← Action.resolve (m.selection projection filter sort {})
      Action.built m.table (.select q) b
      Action.rows q : Action (List Row)).Gives c (.ok (t.rows q)) c := by
  obtain ⟨_, _, -, -, hplain⟩ := Mapping.selection_eq_ok.1 hq
  have hrows : c.database.rows q = .ok (t.rows q) := by
    have hstretch := h.rows_eq_ok hcolumns hq none none
    rwa [hplain] at hstretch ⊢
  rw [hq]
  exact (Action.gives_resolve (q, b) c).bind ((Action.gives_built _ _ _ _).bind (Action.gives_rows hrows))

theorem gives_findBy (h : Readable c m t) (hproj : Sql.Projection.ofFields m.properties fields = .ok projection)
    (hq : m.selection projection filter sort {} = .ok (q, b)) :
    (Rows.findBy m filter sort fields).Gives c (.ok (t.rows q)) c := by
  unfold Rows.findBy
  rw [hproj]
  exact (Action.gives_resolve projection c).bind (h.gives_selected (Sql.Projection.of_ofFields hproj).2 hq)

theorem gives_findDistinct (h : Readable c m t) {distinct : FieldSet} {names : List String}
    (hnames : m.properties.select distinct = .ok names)
    (hq : m.selection (.distinct names) filter sort {} = .ok (q, b)) :
    (Rows.findDistinct m distinct filter sort).Gives c (.ok (t.rows q)) c := by
  have hproj : Sql.Projection.ofDistinct m.properties distinct = .ok (.distinct names) := by
    unfold Sql.Projection.ofDistinct
    rw [hnames]
  have hcolumns : ∀ n ∈ (Sql.Projection.distinct names).names, n ∈ m.properties.columns := fun n hn =>
    PropertyMap.mem_columns_of_select hnames hn
  unfold Rows.findDistinct
  rw [hproj]
  exact (Action.gives_resolve _ c).bind (h.gives_selected hcolumns hq)

/-- The row with an identity is that of the first record that has it, unless that record shows nothing of what is asked
for. -/
theorem gives_find_unless_empty (h : Readable c m t) {id : Scalar} (hid : id.isNull = false)
    (hproj : Sql.Projection.ofFields m.properties fields = .ok projection) :
    (Rows.find m id fields).Gives c
      (.ok (((t.matching (some (m.hasIdentity id))).head?.map (t.schema.row (t.schema.asked projection))).filter
        fun row => !row.isEmpty)) c := by
  let q : Sql.Select := { table := m.table, projection, condition := some (m.hasIdentity id), limit := some 1 }
  obtain ⟨hplain, hcolumns⟩ := Sql.Projection.of_ofFields hproj
  have hnames : Database.checkNames q.names = .ok () := by
    apply h.checkNames_eq_ok
    intro n hn
    have hcases : n ∈ projection.names ∨ n = m.table ∨ n = m.identity := by
      simpa [q, Sql.Select.names, Sql.conditionNames, Sql.Where.columns, Mapping.hasIdentity, Sql.Where.single,
        Sql.Predicate.column] using hn
    rcases hcases with hn | rfl | rfl
    · exact .inr (.inr (hcolumns n hn))
    · exact .inl rfl
    · exact .inr (.inl rfl)
  have hrows : c.database.rows q =
      .ok (((t.matching (some (m.hasIdentity id))).take 1).map (t.schema.row (t.schema.asked projection))) := by
    rw [Database.rows_eq_ok hnames h.readable, t.rows_of_plain rfl hplain]
    rfl
  have hfirst : (((t.matching (some (m.hasIdentity id))).take 1).map
      (t.schema.row (t.schema.asked projection))).head?.bind (fun r => if r.isEmpty then none else some r) =
      ((t.matching (some (m.hasIdentity id))).head?.map (t.schema.row (t.schema.asked projection))).filter
        fun row => !row.isEmpty := by
    cases t.matching (some (m.hasIdentity id)) with
    | nil => rfl
    | cons r rest => cases hrow : (t.schema.row (t.schema.asked projection) r).isEmpty <;> simp [hrow, Option.filter]
  unfold Rows.find
  rw [hid, hproj]
  refine (Action.gives_resolve projection c).bind ((Action.gives_built _ _ _ _).bind ?_)
  refine (Action.gives_rows hrows).bind ?_
  rw [hfirst]
  exact Action.gives_pure _ _

/-- The row with an identity is that of the first record that has it, if every record shows something of what is asked
for. -/
theorem gives_find_of_fields (h : Readable c m t) {id : Scalar} (hid : id.isNull = false)
    (hproj : Sql.Projection.ofFields m.properties fields = .ok projection)
    (hshown : ∀ r ∈ t.records, (t.schema.row (t.schema.asked projection) r).isEmpty = false) :
    (Rows.find m id fields).Gives c
      (.ok ((t.matching (some (m.hasIdentity id))).head?.map (t.schema.row (t.schema.asked projection)))) c := by
  have hfind := h.gives_find_unless_empty hid hproj
  cases hfirst : (t.matching (some (m.hasIdentity id))).head? with
  | none =>
    rw [hfirst] at hfind
    exact hfind
  | some r =>
    have hmem := t.scan_perm.mem_iff.1 (List.mem_filter.1 (List.mem_of_mem_head? hfirst)).1
    rw [hfirst, Option.map_some, Option.filter_some, hshown r hmem] at hfind
    exact hfind

/-- The row with an identity is that of the first record that has it, if every record shows something. -/
theorem gives_find (h : Readable c m t) {id : Scalar} (hid : id.isNull = false)
    (hshown : ∀ r ∈ t.records, (t.schema.row t.schema.columnNames r).isEmpty = false) :
    (Rows.find m id none).Gives c
      (.ok ((t.matching (some (m.hasIdentity id))).head?.map (t.schema.row t.schema.columnNames))) c := by
  have hproj : Sql.Projection.ofFields m.properties none = .ok .all := rfl
  exact h.gives_find_of_fields hid hproj hshown

/-- A page without different rows is the stretch of the selection that its request asks for, with the count of the same
condition. -/
theorem gives_page_of_plain (h : Readable c m t) {r : PageRequest} (hr : ∀ d, r.distinct = some d → d.isEmpty)
    (hproj : Sql.Projection.ofFields m.properties r.fields = .ok projection)
    (hq : m.selection projection r.filter r.sort {} = .ok (q, b)) :
    (Rows.page m (some r)).Gives c
      (.ok (Page.of (t.rows { q with limit := some r.size, offset := some r.offset })
        (UInt64.ofNat (t.count m.identity q.condition)) r)) c := by
  obtain ⟨condition, terms, hcondition, -, hplain⟩ := Mapping.selection_eq_ok.1 hq
  obtain ⟨b₂, hq₂⟩ := Mapping.selection_of_bindings hq b
  have hcondition' : q.condition = condition := by rw [hplain]
  unfold Rows.page
  simp only [Rows.pageProjection_eq hr, hproj]
  refine (Action.gives_resolve projection c).bind ?_
  rw [hcondition]
  refine (Action.gives_resolve (condition, b) c).bind ?_
  show (Action.resolve (m.selection projection r.filter r.sort b) >>= _ : Action (Page Row)).Gives c _ c
  rw [hq₂]
  refine (Action.gives_resolve (q, b₂) c).bind ?_
  refine (Action.gives_built _ _ _ _).bind ((Action.gives_built _ _ _ _).bind ?_)
  refine (Action.gives_count (h.count_eq_ok hcondition)).bind ?_
  refine (Action.gives_rows (h.rows_eq_ok (Sql.Projection.of_ofFields hproj).2 hq _ _)).bind ?_
  rw [hcondition']
  exact Action.gives_pure _ _

/-- A page is the stretch of the selection that its request asks for, with the count of the same condition. -/
theorem gives_page (h : Readable c m t) {r : PageRequest} (hr : r.distinct = none)
    (hproj : Sql.Projection.ofFields m.properties r.fields = .ok projection)
    (hq : m.selection projection r.filter r.sort {} = .ok (q, b)) :
    (Rows.page m (some r)).Gives c
      (.ok (Page.of (t.rows { q with limit := some r.size, offset := some r.offset })
        (UInt64.ofNat (t.count m.identity q.condition)) r)) c := by
  refine h.gives_page_of_plain (fun d hd => ?_) hproj hq
  rw [hr] at hd
  cases hd

end Readable

end CriteriaStore
