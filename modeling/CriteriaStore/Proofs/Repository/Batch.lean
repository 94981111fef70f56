import CriteriaStore.Proofs.Repository.Lookup
import CriteriaStore.Proofs.Repository.Sample

/-!
# Batches

A batch of entities with different identities is stored as a whole. Whether the identities are stored is asked once,
by key text, and the stored records are written before new ones are added; this leaves the same connection as storing
the entities one after the other (`putAll_gives_as_puts`).
-/

namespace CriteriaStore

open Storage (Connection Table ColumnType)

variable {ε : Type}

/-- The identity and the row under which an entity is stored; one that cannot be flattened gives the empty row. -/
def Mapping.entry (m : Mapping ε) (flatten : Flattener ε) (x : ε) : Scalar × Row :=
  (m.identityOf x, (flatten m x).toOption.getD OrderedMap.empty)

/-- Whether an entity is flattened to a complete row that has the identity of the entity. -/
def Mapping.Flattens (m : Mapping ε) (flatten : Flattener ε) (type : ColumnType) (x : ε) : Prop :=
  ∃ row, flatten m x = .ok row ∧ m.Carries type (m.identityOf x, row)

namespace Serves

variable {c : Connection} {m : Mapping ε} {t : Table} {type : ColumnType} {s : Table × Option Int64}
  {e : Scalar × Row} {batch : List (Scalar × Row)}

/-! ### Rows one after the other -/

private theorem replace_overwriteIn (c : Connection) (hhas : s.1.has e.1) :
    (c.replace s.1 s.2).replace (m.overwriteIn s.1 e) none = c.replace (m.store s e).1 (m.store s e).2 := by
  rw [Connection.replace_replace c (show (m.overwriteIn s.1 e).schema = s.1.schema from rfl)]
  simp [Mapping.store, hhas]

private theorem replace_appended (c : Connection) (hnew : s.1.has e.1 = false) :
    (c.replace s.1 s.2).replace (s.1.appended (m.recordIn s.1 e.2)) (s.1.numberOf? (m.recordIn s.1 e.2)) =
      c.replace (m.store s e).1 (m.store s e).2 := by
  rw [Connection.replace_replace c (Table.appended_schema s.1 (m.recordIn s.1 e.2))]
  simp [Mapping.store, hnew]

theorem store (h : Serves (c.replace s.1 s.2) m s.1 type) (he : m.Carries type e) :
    Serves (c.replace (m.store s e).1 (m.store s e).2) m (m.store s e).1 type := by
  cases hhas : s.1.has e.1 with
  | true =>
    have hnext := h.overwritten e
    rw [replace_overwriteIn c hhas] at hnext
    simpa only [Mapping.store, hhas, if_true] using hnext
  | false =>
    have hnext := h.appended he.owned (h.suits.cell_recordIn he) hhas (s.1.numberOf? (m.recordIn s.1 e.2))
    rw [replace_appended c hhas] at hnext
    simpa only [Mapping.store, hhas, Bool.false_eq_true, if_false] using hnext

/-- Updating, and inserting what is missing, stores the row. -/
theorem gives_store {β : Type} (h : Serves (c.replace s.1 s.2) m s.1 type) (hgen : m.generatesIdentity = false)
    (he : m.Carries type e) {c' : Connection} {y : Except RepositoryError β} {present : Action β}
    {added : Scalar → Action β}
    (hpresent : present.Gives (c.replace (m.store s e).1 (m.store s e).2) y c')
    (hadded : (added e.1).Gives (c.replace (m.store s e).1 (m.store s e).2) y c') :
    (do match ← Rows.update m e.1 e.2 with
      | .updated => present
      | .missing => added (← Rows.insert m e.2) : Action β).Gives (c.replace s.1 s.2) y c' := by
  refine (h.gives_update he.owned he.complete).bind ?_
  cases hhas : s.1.has e.1 with
  | true =>
    rw [← replace_overwriteIn c hhas] at hpresent
    exact hpresent
  | false =>
    have hsame : m.overwriteIn s.1 e = s.1 := Table.overwrite_of_not_has hhas
    rw [← replace_appended c hhas] at hadded
    rw [hsame, h.replace_self]
    exact (h.gives_insert hgen he hhas).bind hadded

theorem gives_updateEach (h : Serves (c.replace s.1 s.2) m s.1 type) (hgen : m.generatesIdentity = false)
    (hbatch : ∀ e ∈ batch, m.Carries type e) :
    (Rows.updateEach m batch).Gives (c.replace s.1 s.2) (.ok (batch.map Prod.fst))
      (c.replace (batch.foldl m.store s).1 (batch.foldl m.store s).2) := by
  induction batch generalizing s with
  | nil => exact Action.gives_pure _ _
  | cons e rest ih =>
    have he := hbatch e List.mem_cons_self
    have hrest := ih (h.store he) fun e he => hbatch e (List.mem_cons_of_mem _ he)
    apply h.gives_store hgen he
    · exact hrest.bind (Action.gives_pure _ _)
    · exact hrest.bind (Action.gives_pure _ _)

theorem foldl_store (h : Serves (c.replace s.1 s.2) m s.1 type) (hbatch : ∀ e ∈ batch, m.Carries type e) :
    Serves (c.replace (batch.foldl m.store s).1 (batch.foldl m.store s).2) m (batch.foldl m.store s).1 type := by
  induction batch generalizing s with
  | nil => exact h
  | cons e rest ih =>
    exact ih (h.store (hbatch e List.mem_cons_self)) fun e he => hbatch e (List.mem_cons_of_mem _ he)

/-- The rows of a batch whose identities are stored are updated, and no other identity is stored then. -/
theorem gives_updates (h : Serves (c.replace s.1 s.2) m s.1 type) (hgen : m.generatesIdentity = false)
    (hbatch : ∀ e ∈ batch, m.Carries type e) :
    let stored := batch.filter fun e => s.1.has e.1
    Serves (c.replace (stored.foldl m.store s).1 (stored.foldl m.store s).2) m (stored.foldl m.store s).1 type ∧
      (Rows.updateEach m stored).Gives (c.replace s.1 s.2) (.ok (stored.map Prod.fst))
        (c.replace (stored.foldl m.store s).1 (stored.foldl m.store s).2) ∧
      ∀ id, type.Owns id → (stored.foldl m.store s).1.has id = s.1.has id := by
  intro stored
  have hstored : ∀ e ∈ stored, m.Carries type e := fun e he => hbatch e (List.mem_filter.1 he).1
  refine ⟨h.foldl_store hstored, h.gives_updateEach hgen hstored, fun id hid => ?_⟩
  rw [Bool.eq_iff_iff, h.toFits.has_foldl_store hstored hid]
  constructor
  · rintro (hhas | hmem)
    · exact hhas
    · obtain ⟨e, he, rfl⟩ := List.mem_map.1 hmem
      exact (List.mem_filter.1 he).2
  · exact .inl

theorem gives_insertEach (h : Serves (c.replace s.1 s.2) m s.1 type) (hgen : m.generatesIdentity = false)
    (hbatch : ∀ e ∈ batch, m.Carries type e) (hnodup : (batch.map Prod.fst).Nodup)
    (hnew : ∀ e ∈ batch, s.1.has e.1 = false) :
    (Rows.insertEach m batch).Gives (c.replace s.1 s.2) (.ok (batch.map Prod.fst))
      (c.replace (batch.foldl m.store s).1 (batch.foldl m.store s).2) := by
  induction batch generalizing s with
  | nil => exact Action.gives_pure _ _
  | cons e rest ih =>
    have he := hbatch e List.mem_cons_self
    have hnot := hnew e List.mem_cons_self
    rw [List.map_cons, List.nodup_cons] at hnodup
    have hlater : ∀ e' ∈ rest, (m.store s e).1.has e'.1 = false := by
      intro e' he'
      have hcarries := hbatch e' (List.mem_cons_of_mem _ he')
      rw [← Bool.not_eq_true, h.toFits.has_store he hcarries.owned, hnew e' (List.mem_cons_of_mem _ he')]
      rintro (hfalse | heq)
      · exact Bool.false_ne_true hfalse
      · exact hnodup.1 (heq ▸ List.mem_map_of_mem he')
    have hrest := ih (h.store he) (fun e he => hbatch e (List.mem_cons_of_mem _ he)) hnodup.2 hlater
    rw [← replace_appended c hnot] at hrest
    exact (h.gives_insert hgen he hnot).bind (hrest.bind (Action.gives_pure _ _))

/-! ### Entities one after the other -/

variable {flatten : Flattener ε} {x : ε} {es : List ε}

theorem flatten_eq (hx : m.Flattens flatten type x) :
    flatten m x = .ok (m.entry flatten x).2 ∧ m.Carries type (m.entry flatten x) := by
  obtain ⟨row, hflat, hcarries⟩ := hx
  have hentry : m.entry flatten x = (m.identityOf x, row) := by
    unfold Mapping.entry
    rw [hflat]
    rfl
  rw [hentry]
  exact ⟨hflat, hcarries⟩

/-- Storing an entity gives the row that is stored under its identity afterwards. -/
theorem gives_put (h : Serves (c.replace s.1 s.2) m s.1 type) (hgen : m.generatesIdentity = false)
    (hx : m.Flattens flatten type x) :
    ∃ written, (Rows.put m flatten x).Gives (c.replace s.1 s.2) (.ok written)
      (c.replace (m.store s (m.entry flatten x)).1 (m.store s (m.entry flatten x)).2) := by
  obtain ⟨hflat, he⟩ := flatten_eq hx
  have hhas : (m.store s (m.entry flatten x)).1.has (m.identityOf x) := (h.toFits.has_store he he.owned).2 (.inr rfl)
  obtain ⟨written, -, hreread⟩ := (h.store he).gives_reread he.owned hhas
  refine ⟨written, ?_⟩
  unfold Rows.put
  rw [hflat]
  refine (Action.gives_resolve _ _).bind ?_
  simp only [show (m.identityOf x).isNull = false from he.owned.isNull, Bool.false_eq_true, if_false]
  exact h.gives_store hgen he hreread hreread

theorem gives_puts (h : Serves (c.replace s.1 s.2) m s.1 type) (hgen : m.generatesIdentity = false)
    (hes : ∀ x ∈ es, m.Flattens flatten type x) :
    ∃ written, (es.mapM (Rows.put m flatten)).Gives (c.replace s.1 s.2) (.ok written)
      (c.replace ((es.map (m.entry flatten)).foldl m.store s).1 ((es.map (m.entry flatten)).foldl m.store s).2) := by
  induction es generalizing s with
  | nil => exact ⟨[], Action.gives_pure _ _⟩
  | cons x rest ih =>
    obtain ⟨first, hfirst⟩ := h.gives_put hgen (hes x List.mem_cons_self)
    have hnext := h.store (flatten_eq (hes x List.mem_cons_self)).2
    obtain ⟨others, hothers⟩ := ih hnext fun x hx => hes x (List.mem_cons_of_mem _ hx)
    refine ⟨first :: others, ?_⟩
    rw [List.mapM_cons]
    exact hfirst.bind (hothers.bind (Action.gives_pure _ _))

/-! ### Entities at once -/

private theorem checked_eq_ok (n : Nat) (hes : ∀ x ∈ es, m.Flattens flatten type x) :
    Rows.checked m flatten n es = .ok (es.map (m.entry flatten)) := by
  induction es generalizing n with
  | nil => rfl
  | cons x rest ih =>
    obtain ⟨hflat, he⟩ := flatten_eq (hes x List.mem_cons_self)
    have hrest := ih (n + 1) fun x hx => hes x (List.mem_cons_of_mem _ hx)
    simp only [Rows.checked, show (m.identityOf x).isNull = false from he.owned.isNull, Bool.false_and,
      Bool.false_eq_true, if_false, hflat, hrest]
    rfl

/-- Updating what is stored and then inserting the rest stores the batch, if what is inserted has different
identities. -/
private theorem gives_writes (h : Serves (c.replace s.1 s.2) m s.1 type) (hgen : m.generatesIdentity = false)
    (hbatch : ∀ e ∈ batch, m.Carries type e) (hnodup : ((batch.filter fun e => !s.1.has e.1).map Prod.fst).Nodup)
    {β : Type} {c' : Connection} {y : Except RepositoryError β} (next : List Scalar → Action β)
    (hnext : (next ((batch.filter fun e => s.1.has e.1).map Prod.fst ++
        (batch.filter fun e => !s.1.has e.1).map Prod.fst)).Gives
      (c.replace (batch.foldl m.store s).1 (batch.foldl m.store s).2) y c') :
    (do
      let updated ← Rows.updateEach m (batch.filter fun e => s.1.has e.1)
      let inserted ← Rows.insertEach m (batch.filter fun e => !s.1.has e.1)
      next (updated ++ inserted) : Action β).Gives (c.replace s.1 s.2) y c' := by
  have hothers : ∀ e ∈ batch.filter fun e => !s.1.has e.1, m.Carries type e := fun e he =>
    hbatch e (List.mem_filter.1 he).1
  have hfold := h.toFits.foldl_store_filter hbatch (p := s.1.has) fun _ _ hp => hp
  rw [List.foldl_append] at hfold
  obtain ⟨hserves, hupdated, hkept⟩ := h.gives_updates hgen hbatch
  have hnew : ∀ e ∈ batch.filter fun e => !s.1.has e.1,
      ((batch.filter fun e => s.1.has e.1).foldl m.store s).1.has e.1 = false := by
    intro e he
    rw [hkept e.1 (hothers e he).owned]
    simpa using (List.mem_filter.1 he).2
  have hinserted := hserves.gives_insertEach hgen hothers hnodup hnew
  rw [hfold] at hinserted
  exact hupdated.bind (hinserted.bind hnext)

/-- Of the identities of a batch, the keys of those that are stored tell which rows are updated. -/
private theorem filter_stored (hbatch : ∀ e ∈ batch, m.Carries type e) {keys : List String}
    (hkeys : ∀ id ∈ batch.map Prod.fst, keys.contains id.keyText = t.has id) :
    (batch.filter fun e => !e.1.isNull && keys.contains e.1.keyText) = batch.filter (fun e => t.has e.1) ∧
      (batch.filter fun e => !(!e.1.isNull && keys.contains e.1.keyText)) = batch.filter fun e => !t.has e.1 := by
  have hsame : ∀ e ∈ batch, (!e.1.isNull && keys.contains e.1.keyText) = t.has e.1 := by
    intro e he
    rw [(hbatch e he).owned.isNull, hkeys e.1 (List.mem_map_of_mem he)]
    rfl
  exact ⟨List.filter_congr hsame, List.filter_congr fun e he => by rw [hsame e he]⟩

/-- The rows of the identities of a batch, in whatever order they are asked for. -/
private theorem gives_written (h : Serves c m t type) {property : String}
    (hp : m.properties.get? property = some m.identity) {ids ids' : List Scalar} (hperm : ids.Perm ids')
    (hne : ids' ≠ []) (hids : ∀ id ∈ ids', type.Owns id) (hhas : ∀ id ∈ ids', t.has id) :
    ∃ rows, (Rows.findBy m (some (Rows.oneOf property ids)) none none).Gives c (.ok rows) c ∧
      (ids'.Nodup → (rows.map some).Perm (ids'.map t.storedRow?)) := by
  have hasked : ids ≠ [] := fun hnil => hne (List.nil_perm.1 (hnil ▸ hperm))
  have hall : Sql.Projection.ofFields m.properties none = .ok .all := rfl
  have hrows := h.gives_findBy hp hasked hall
  refine ⟨_, hrows, fun hnodup => ?_⟩
  have hmatching := (h.keyed.matching_perm (fun id hid => hids id (hperm.mem_iff.1 hid)) (hperm.nodup_iff.2 hnodup)
    fun id hid => hhas id (hperm.mem_iff.1 hid)).trans (hperm.map t.stored?)
  have hread := hmatching.map (Option.map (t.schema.row t.schema.columnNames))
  rw [List.map_map, List.map_map] at hread
  rw [List.map_map]
  exact hread

theorem carries_of_flattens (hes : ∀ x ∈ es, m.Flattens flatten type x) :
    ∀ e ∈ es.map (m.entry flatten), m.Carries type e := by
  intro e he
  obtain ⟨x, hx, rfl⟩ := List.mem_map.1 he
  exact (flatten_eq (hes x hx)).2

theorem map_fst_entries (m : Mapping ε) (flatten : Flattener ε) (es : List ε) :
    (es.map (m.entry flatten)).map Prod.fst = es.map m.identityOf := by
  rw [List.map_map]
  rfl

theorem owned_of_flattens (hes : ∀ x ∈ es, m.Flattens flatten type x) : ∀ id ∈ es.map m.identityOf, type.Owns id := by
  intro id hid
  rw [← map_fst_entries m flatten] at hid
  obtain ⟨e, he, rfl⟩ := List.mem_map.1 hid
  exact (carries_of_flattens hes e he).owned

/-- A batch is checked and its identities are looked up, and then its stored rows are updated and the others
inserted. -/
theorem gives_putAll_of_writes (h : Serves c m t type) (hes : ∀ x ∈ es, m.Flattens flatten type x) (hne : es ≠ []) :
    ∃ property, m.properties.get? property = some m.identity ∧
      ∀ y c', (do
        let updated ← Rows.updateEach m ((es.map (m.entry flatten)).filter fun e => t.has e.1)
        let inserted ← Rows.insertEach m ((es.map (m.entry flatten)).filter fun e => !t.has e.1)
        Rows.findBy m (some (Rows.oneOf property (updated ++ inserted))) none none : Action (List Row)).Gives c y c' →
      (Rows.putAll m flatten es).Gives c y c' := by
  have hids := owned_of_flattens hes
  have hasked : (es.map m.identityOf).filter (fun id => !id.isNull) = es.map m.identityOf := by
    rw [List.filter_eq_self]
    intro id hid
    rw [(hids id hid).isNull]
    rfl
  obtain ⟨property, hproperty⟩ := Mapping.exists_identityProperty h.identified
  obtain ⟨keys, hstoredKeys, hkeys⟩ := h.gives_storedKeys hids
  rw [← map_fst_entries m flatten] at hkeys
  have hempty : es.isEmpty = false := by simpa using hne
  refine ⟨property, Mapping.get?_of_identityProperty hproperty, fun y c' hwrites => ?_⟩
  unfold Rows.putAll
  simp only [hempty, hproperty, checked_eq_ok 0 hes]
  refine (Action.gives_resolve property _).bind ((Action.gives_lift _ _).bind ?_)
  simp only [map_fst_entries, hasked]
  refine hstoredKeys.bind ?_
  have hfilters := filter_stored (carries_of_flattens hes) hkeys
  simp only [hfilters.1, hfilters.2]
  exact hwrites

/-- A batch is stored when those of its identities that are new are different. -/
theorem gives_putAll (h : Serves (c.replace s.1 s.2) m s.1 type) (hgen : m.generatesIdentity = false)
    (hes : ∀ x ∈ es, m.Flattens flatten type x) (hnew : ((es.map m.identityOf).filter fun id => !s.1.has id).Nodup) :
    ∃ rows, (Rows.putAll m flatten es).Gives (c.replace s.1 s.2) (.ok rows)
        (c.replace ((es.map (m.entry flatten)).foldl m.store s).1 ((es.map (m.entry flatten)).foldl m.store s).2) ∧
      ((es.map m.identityOf).Nodup → (rows.map some).Perm
        (es.map fun x => ((es.map (m.entry flatten)).foldl m.store s).1.storedRow? (m.identityOf x))) := by
  by_cases hne : es = []
  · subst hne
    exact ⟨[], Action.gives_pure _ _, by simp⟩
  have hfst := map_fst_entries m flatten es
  have hbatch := carries_of_flattens hes
  have hids := owned_of_flattens hes
  -- the identities are read back in the order of writing
  have hperm : (((es.map (m.entry flatten)).filter fun e => s.1.has e.1).map Prod.fst ++
      ((es.map (m.entry flatten)).filter fun e => !s.1.has e.1).map Prod.fst).Perm (es.map m.identityOf) := by
    rw [← List.map_append, ← hfst]
    exact (List.filter_append_perm _ _).map _
  have hhas : ∀ id ∈ es.map m.identityOf, ((es.map (m.entry flatten)).foldl m.store s).1.has id := by
    intro id hid
    rw [h.toFits.has_foldl_store hbatch (hids id hid), hfst]
    exact .inr hid
  have hnodup : (((es.map (m.entry flatten)).filter fun e => !s.1.has e.1).map Prod.fst).Nodup := by
    rw [← hfst, List.filter_map] at hnew
    exact hnew
  obtain ⟨property, hp, hputAll⟩ := h.gives_putAll_of_writes hes hne
  obtain ⟨rows, hrows, hwritten⟩ := (h.foldl_store hbatch).gives_written hp hperm (by simpa using hne) hids hhas
  refine ⟨rows, hputAll _ _ ?_, fun hdistinct => ?_⟩
  · exact h.gives_writes hgen hbatch hnodup
      (fun ids => Rows.findBy m (some (Rows.oneOf property ids)) none none) hrows
  · have hread := hwritten hdistinct
    rw [List.map_map] at hread
    exact hread

end Serves

end CriteriaStore
