import CriteriaStore.Proofs.Repository.Batch
import Mathlib.Data.List.Induction

/-!
# Batches with repeated identities

Which identities are stored is asked once for a batch, before its first write. An identity that is stored may stand in
a batch any number of times, because each of its rows is written over the record. A new identity is inserted each time
it comes, and the second insertion is refused (`gives_putAll_of_repeated`). Storing the entities one after the other
does not fail on either.
-/

namespace CriteriaStore

open Storage (Connection Table ColumnType)

variable {ε : Type}

namespace Mapping

/-- The entities whose identities a table stores. -/
def known (m : Mapping ε) (t : Table) (es : List ε) : List ε := es.filter fun x => t.has (m.identityOf x)

/-- The entities whose identities a table does not store. -/
def newcomers (m : Mapping ε) (t : Table) (es : List ε) : List ε := es.filter fun x => !t.has (m.identityOf x)

theorem filter_entries_known (m : Mapping ε) (t : Table) (flatten : Flattener ε) (es : List ε) :
    ((es.map (m.entry flatten)).filter fun e => t.has e.1) = (m.known t es).map (m.entry flatten) := List.filter_map ..

theorem filter_entries_newcomers (m : Mapping ε) (t : Table) (flatten : Flattener ε) (es : List ε) :
    ((es.map (m.entry flatten)).filter fun e => !t.has e.1) = (m.newcomers t es).map (m.entry flatten) :=
  List.filter_map ..

end Mapping

/-- A list with a repeated key has a first item that repeats one. -/
private theorem exists_repetition {α κ : Type} {key : α → κ} {l : List α} (h : ¬(l.map key).Nodup) :
    ∃ before x after, l = before ++ x :: after ∧ (before.map key).Nodup ∧ key x ∈ before.map key := by
  induction l using List.reverseRecOn with
  | nil => exact absurd List.nodup_nil h
  | append_singleton l x ih =>
    by_cases hl : (l.map key).Nodup
    · refine ⟨l, x, [], rfl, hl, ?_⟩
      by_contra hx
      refine h ?_
      rw [List.map_append, List.map_singleton, ← List.concat_eq_append]
      exact hl.concat hx
    · obtain ⟨before, y, after, rfl, hbefore, hy⟩ := ih hl
      exact ⟨before, y, after ++ [x], by simp, hbefore, hy⟩

theorem Rows.insertEach_append (m : Mapping ε) (xs ys : List (Scalar × Row)) :
    insertEach m (xs ++ ys) = do
      let first ← insertEach m xs
      let second ← insertEach m ys
      return first ++ second := by
  induction xs with
  | nil => simp [insertEach]
  | cons x rest ih => simp [insertEach, ih]

theorem Sample.flattens_flag (n : Int64) (on : Bool) :
    (flags false).Flattens .mapped .integer (flag (.int n) on) :=
  ⟨_, rfl, trivial, completes_flag false (.int n) on, rfl⟩

namespace Serves

variable {c : Connection} {m : Mapping ε} {t : Table} {type : ColumnType} {flatten : Flattener ε} {es : List ε}

/-- New rows are inserted up to the first one that repeats an identity. -/
private theorem gives_insertEach_of_repeated {s : Table × Option Int64} (h : Serves (c.replace s.1 s.2) m s.1 type)
    (hgen : m.generatesIdentity = false) {before : List (Scalar × Row)} {e : Scalar × Row}
    (hbefore : ∀ a ∈ before, m.Carries type a) (he : m.Carries type e) (hnodup : (before.map Prod.fst).Nodup)
    (hnew : ∀ a ∈ before, s.1.has a.1 = false) (hrepeated : e.1 ∈ before.map Prod.fst) (after : List (Scalar × Row)) :
    (Rows.insertEach m (before ++ e :: after)).Gives (c.replace s.1 s.2)
      (.error (.storage .execution (.duplicateKey s.1.schema.name m.identity)))
      (c.replace (before.foldl m.store s).1 (before.foldl m.store s).2) := by
  have hhas : (before.foldl m.store s).1.has e.1 := (h.toFits.has_foldl_store hbefore he.owned).2 (.inr hrepeated)
  have hrefused := (h.foldl_store hbefore).gives_insert_of_has hgen he hhas
  rw [Mapping.schema_foldl_store] at hrefused
  rw [Rows.insertEach_append]
  exact (h.gives_insertEach hgen hbefore hnodup hnew).bind hrefused.bind_error.bind_error

/-- When a new identity is repeated, the batch stops at the first row that repeats one. What comes before in the order
of writing stays stored. -/
private theorem gives_putAll_of_repeated (h : Serves c m t type) (hgen : m.generatesIdentity = false)
    (hes : ∀ x ∈ es, m.Flattens flatten type x) {before after : List ε} {x : ε}
    (hsplit : m.newcomers t es = before ++ x :: after) (hnodup : (before.map m.identityOf).Nodup)
    (hrepeated : m.identityOf x ∈ before.map m.identityOf) :
    let s := ((m.known t es ++ before).map (m.entry flatten)).foldl m.store (t, none)
    (Rows.putAll m flatten es).Gives c (.error (.storage .execution (.duplicateKey t.schema.name m.identity)))
      (c.replace s.1 s.2) := by
  have hnewcomer : ∀ y ∈ before ++ x :: after, y ∈ es ∧ t.has (m.identityOf y) = false := by
    intro y hy
    rw [← hsplit, Mapping.newcomers, List.mem_filter] at hy
    simpa using hy
  have hbefore : ∀ y ∈ before, m.Flattens flatten type y := fun y hy =>
    hes y (hnewcomer y (List.mem_append_left _ hy)).1
  have hx : m.Carries type (m.entry flatten x) := (flatten_eq (hes x (hnewcomer x (by simp)).1)).2
  have hne : es ≠ [] := List.ne_nil_of_mem (hnewcomer x (by simp)).1
  obtain ⟨hserves, hupdated, hkept⟩ := h.replaced_self.gives_updates (s := (t, none)) hgen (carries_of_flattens hes)
  rw [m.filter_entries_known] at hserves hupdated hkept
  have hfresh : ∀ e ∈ before.map (m.entry flatten),
      (((m.known t es).map (m.entry flatten)).foldl m.store (t, none)).1.has e.1 = false := by
    intro e he
    obtain ⟨y, hy, rfl⟩ := List.mem_map.1 he
    rw [hkept _ (carries_of_flattens hbefore _ he).owned]
    exact (hnewcomer y (List.mem_append_left _ hy)).2
  -- the known rows are updated, and then one of the others is refused
  have hinserted := gives_insertEach_of_repeated hserves hgen (carries_of_flattens hbefore) hx
    (by rwa [map_fst_entries]) hfresh (by rwa [map_fst_entries]) (after.map (m.entry flatten))
  rw [Mapping.schema_foldl_store] at hinserted
  obtain ⟨property, -, hputAll⟩ := h.replaced_self.gives_putAll_of_writes hes hne
  rw [m.filter_entries_known, m.filter_entries_newcomers, hsplit, List.map_append, List.map_cons, h.replace_self]
    at hputAll
  rw [h.replace_self] at hupdated
  rw [List.map_append, List.foldl_append]
  exact hputAll _ _ (hupdated.bind hinserted.bind_error)

/-- Storing entities one after the other never fails. Storing them as a batch ends without error, and with the same
connection, when the identities that are not stored are different; each of them is then added once. When one of them is
repeated, storage refuses the row that repeats one first, and what was stored before stays. -/
theorem putAll_gives_unless_repeated (h : Serves c m t type) (hgen : m.generatesIdentity = false)
    (hes : ∀ x ∈ es, m.Flattens flatten type x) :
    ∃ c' written, (es.mapM (Rows.put m flatten)).Gives c (.ok written) c' ∧
      (((m.newcomers t es).map m.identityOf).Nodup → ∃ rows t',
        (Rows.putAll m flatten es).Gives c (.ok rows) c' ∧ c'.database.writable m.table = .ok t' ∧
        t'.records.length = t.records.length + (m.newcomers t es).length) ∧
      (¬((m.newcomers t es).map m.identityOf).Nodup → ∃ before x after c'' written',
        m.newcomers t es = before ++ x :: after ∧ (before.map m.identityOf).Nodup ∧
        m.identityOf x ∈ before.map m.identityOf ∧
        ((m.known t es ++ before).mapM (Rows.put m flatten)).Gives c (.ok written') c'' ∧
        (Rows.putAll m flatten es).Gives c
          (.error (.storage .execution (.duplicateKey t.schema.name m.identity))) c'') := by
  have hstart := h.replaced_self
  have hputs (xs : List ε) (hxs : ∀ x ∈ xs, m.Flattens flatten type x) := hstart.gives_puts (s := (t, none)) hgen hxs
  rw [h.replace_self] at hputs
  obtain ⟨written, hall⟩ := hputs es hes
  refine ⟨_, written, hall, fun hnodup => ?_, fun hrepeated => ?_⟩
  · have hnew : ((es.map m.identityOf).filter fun id => !t.has id).Nodup := by
      rw [List.filter_map]
      exact hnodup
    obtain ⟨rows, hputAll, -⟩ := hstart.gives_putAll (s := (t, none)) hgen hes hnew
    rw [h.replace_self] at hputAll
    have hbatch := carries_of_flattens hes
    have hlength := h.toFits.length_foldl_store (s := (t, none)) hbatch (by
      rw [m.filter_entries_newcomers, map_fst_entries]
      exact hnodup)
    rw [m.filter_entries_newcomers, List.length_map] at hlength
    exact ⟨rows, _, hputAll, (hstart.foldl_store (s := (t, none)) hbatch).writable, hlength⟩
  · obtain ⟨before, x, after, hsplit, hbefore, hx⟩ := exists_repetition hrepeated
    have hmem : ∀ y ∈ m.known t es ++ before, y ∈ es := by
      intro y hy
      rcases List.mem_append.1 hy with hy | hy
      · exact (List.mem_filter.1 hy).1
      · have hnew : y ∈ m.newcomers t es := hsplit ▸ List.mem_append_left _ hy
        exact (List.mem_filter.1 hnew).1
    obtain ⟨written', hstored⟩ := hputs (m.known t es ++ before) fun y hy => hes y (hmem y hy)
    exact ⟨before, x, after, _, written', hsplit, hbefore, hx, hstored,
      h.gives_putAll_of_repeated hgen hes hsplit hbefore hx⟩

/-- A flag that is stored comes twice, and a new one once. -/
theorem putAll_gives_unless_repeated_of_flags :
    let es := [Sample.flag (.int 1) false, Sample.flag (.int 7) true, Sample.flag (.int 1) true]
    Serves Sample.flagConnection (Sample.flags false) Sample.flagTable .integer ∧
      (Sample.flags false).generatesIdentity = false ∧
      (∀ x ∈ es, (Sample.flags false).Flattens .mapped .integer x) ∧
      (((Sample.flags false).newcomers Sample.flagTable es).map (Sample.flags false).identityOf).Nodup ∧
      ∃ c' written rows t',
        (es.mapM (Rows.put (Sample.flags false) .mapped)).Gives Sample.flagConnection (.ok written) c' ∧
        (Rows.putAll (Sample.flags false) .mapped es).Gives Sample.flagConnection (.ok rows) c' ∧
        c'.database.writable "flags" = .ok t' ∧ t'.records.length = 2 := by
  intro es
  have hes : ∀ x ∈ es, (Sample.flags false).Flattens .mapped .integer x := by
    intro x hx
    simp only [es, List.mem_cons, List.not_mem_nil, or_false] at hx
    rcases hx with rfl | rfl | rfl <;> exact Sample.flattens_flag _ _
  have hnew : (Sample.flags false).newcomers Sample.flagTable es = [Sample.flag (.int 7) true] := by
    have hknown : Sample.flagTable.has (.int 1) = true := by decide +kernel
    have hnot : Sample.flagTable.has (.int 7) = false := by decide +kernel
    simp [Mapping.newcomers, es, Sample.flag, Sample.flags, hknown, hnot]
  have hnodup : (((Sample.flags false).newcomers Sample.flagTable es).map (Sample.flags false).identityOf).Nodup := by
    rw [hnew]
    exact List.nodup_singleton _
  obtain ⟨c', written, hputs, hdistinct, -⟩ := putAll_gives_unless_repeated (Sample.serves_flags false) rfl hes
  obtain ⟨rows, t', hputAll, hwritable, hlength⟩ := hdistinct hnodup
  rw [hnew] at hlength
  exact ⟨Sample.serves_flags false, rfl, hes, hnodup, c', written, rows, t', hputs, hputAll, hwritable, hlength⟩

/-- A new flag that comes twice is refused in a batch, but not when one is stored after the other. -/
theorem putAll_refuses_repeated_flag :
    let es := [Sample.flag (.int 7) true, Sample.flag (.int 7) false]
    Serves Sample.flagConnection (Sample.flags false) Sample.flagTable .integer ∧
      (Sample.flags false).generatesIdentity = false ∧
      (∀ x ∈ es, (Sample.flags false).Flattens .mapped .integer x) ∧
      (∃ c' written, (es.mapM (Rows.put (Sample.flags false) .mapped)).Gives Sample.flagConnection (.ok written) c') ∧
      ∃ c', (Rows.putAll (Sample.flags false) .mapped es).Gives Sample.flagConnection
        (.error (.storage .execution (.duplicateKey "flags" "flag_id"))) c' := by
  intro es
  have hes : ∀ x ∈ es, (Sample.flags false).Flattens .mapped .integer x := by
    intro x hx
    simp only [es, List.mem_cons, List.not_mem_nil, or_false] at hx
    rcases hx with rfl | rfl <;> exact Sample.flattens_flag _ _
  have hserves := Sample.serves_flags false
  obtain ⟨written, hputs⟩ := hserves.replaced_self.gives_puts (s := (Sample.flagTable, none)) rfl hes
  rw [hserves.replace_self] at hputs
  have hnew : (Sample.flags false).newcomers Sample.flagTable es =
      [Sample.flag (.int 7) true] ++ Sample.flag (.int 7) false :: [] := by
    have hnot : Sample.flagTable.has (.int 7) = false := by decide +kernel
    refine List.filter_eq_self.2 fun x hx => ?_
    simp only [es, List.mem_cons, List.not_mem_nil, or_false] at hx
    rcases hx with rfl | rfl <;> simp [Sample.flag, Sample.flags, hnot]
  have hrefused := gives_putAll_of_repeated hserves rfl hes hnew (List.nodup_singleton _) (List.mem_singleton.2 rfl)
  exact ⟨hserves, rfl, hes, ⟨_, written, hputs⟩, _, hrefused⟩

end Serves

end CriteriaStore
