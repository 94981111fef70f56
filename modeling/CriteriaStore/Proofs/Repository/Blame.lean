import CriteriaStore.Proofs.Repository.Resolving
import CriteriaStore.Proofs.Repository.Sample
import Mathlib.Data.List.TakeWhile

/-!
# Errors caused by entities

A batch fails because of its entities when one has no identity, cannot be flattened, or has no value for a mapped
column. The first two are found before anything is written. A missing value is found only when its row is about to be
written: the rows that come before it in the order of writing, stored ones first, stay written
(`putAll_connection_of_error`).
-/

namespace CriteriaStore

open Storage (Connection)
open CriteriaStore.Action (Program exec)

variable {ε : Type}

/-- Whether an error is caused by the entities that are to be stored. -/
def RepositoryError.OfEntities : RepositoryError → Prop
  | criteria _ | notAnIdentity _ | missingColumnValue _ _ => True
  | _ => False

namespace Mapping

variable {m : Mapping ε} {row : Row}

/-- Whether a row has a value for every column that is written over a stored record. -/
def isComplete (m : Mapping ε) (e : Scalar × Row) : Bool := (m.lacking? e.2 false).isNone

/-- A new row lacks the same columns: its identity is assigned only when it has one. -/
theorem lacking?_assigned (m : Mapping ε) (row : Row) :
    m.lacking? row (!(Rows.assignedIdentity m row).isNull) = m.lacking? row false := by
  cases hnull : (Rows.assignedIdentity m row).isNull with
  | true => rfl
  | false =>
    have hsome : (row.get? m.identity).isNone = false := by
      unfold Rows.assignedIdentity at hnull
      cases hget : row.get? m.identity with
      | none => cases m.generatesIdentity <;> simp [hget, Scalar.isNull] at hnull
      | some v => rfl
    unfold lacking? written
    rw [List.find?_filter, List.find?_filter]
    congr 1
    funext column
    by_cases hcolumn : column = m.identity
    · simp [hcolumn, hsome]
    · simp [hcolumn]

end Mapping

namespace Rows

variable {m : Mapping ε} {flatten : Flattener ε} {step : Scalar × Row → Action Scalar} {batch : List (Scalar × Row)}
  {j j' : Journal} {e : RepositoryError}

/-! ### Writing one row -/

/-- What goes wrong without any failure of its own is not the fault of the entities. -/
private theorem not_ofEntities {α : Type} {mayWrite : Prop} {a : Action α} (h : Program mayWrite (fun _ => False) a)
    (he : exec a j = (.error e, j')) : ¬e.OfEntities := by
  rcases h.raises he with hfalse | ⟨phase, s, rfl⟩
  · exact hfalse.elim
  · exact id

/-- Store a row over the record with its identity, or as a new one if there is none; gives its identity. -/
def place (m : Mapping ε) (e : Scalar × Row) : Action Scalar := do
  match ← update m e.1 e.2 with
  | .updated => return e.1
  | .missing => insert m e.2

/-- A way to write rows that looks for missing values first. -/
structure Careful (m : Mapping ε) (step : Scalar × Row → Action Scalar) : Prop where
  complete : ∀ r, m.lacking? r.2 false = none → Program True (fun _ => False) (step r)
  lacking : ∀ r column j, m.lacking? r.2 false = some column →
    exec (step r) j = (.error (.missingColumnValue m.table column), j)

private theorem careful_insert (m : Mapping ε) : Careful m fun r => insert m r.2 where
  complete r hr := by
    apply insert_program
    intro e he
    obtain ⟨b, hok⟩ := assignments_eq_ok ((m.lacking?_assigned r.2).trans hr) {}
    rw [hok] at he
    cases he
  lacking r column j hr := by
    apply Action.exec_bind_error
    rw [Action.exec_lift, assignments_eq_error ((m.lacking?_assigned r.2).trans hr)]

private theorem careful_place (m : Mapping ε) : Careful m (place m) where
  complete r hr := by
    have hupdate : Program True (fun _ => False) (update m r.1 r.2) := by
      apply update_program
      intro e he
      obtain ⟨b, hok⟩ := assignments_eq_ok hr {}
      rw [hok] at he
      cases he
    refine hupdate.bind fun outcome => ?_
    cases outcome with
    | updated => exact .value _
    | missing => exact (careful_insert m).complete r hr
  lacking r column j hr := by
    apply Action.exec_bind_error
    apply Action.exec_bind_error
    rw [Action.exec_lift, assignments_eq_error hr]

theorem updateEach_eq_mapM (m : Mapping ε) (batch : List (Scalar × Row)) :
    updateEach m batch = batch.mapM (place m) := by
  induction batch with
  | nil => rfl
  | cons e rest ih =>
    rw [List.mapM_cons, ← ih]
    unfold place
    rw [bind_assoc]
    show (update m e.1 e.2 >>= _) = _
    congr 1
    funext outcome
    cases outcome with
    | updated => rfl
    | missing => rfl

theorem insertEach_eq_mapM (m : Mapping ε) (batch : List (Scalar × Row)) :
    insertEach m batch = batch.mapM fun r => insert m r.2 := by
  induction batch with
  | nil => rfl
  | cons e rest ih =>
    rw [List.mapM_cons, ← ih]
    rfl

/-! ### Writing several rows -/

/-- When rows are written one after the other, the first one that lacks a value ends it. The others before it are
written. -/
theorem Careful.mapM_error (h : Careful m step) (hexec : exec (batch.mapM step) j = (.error e, j'))
    (he : e.OfEntities) :
    ∃ r ∈ batch, (∃ column, m.lacking? r.2 false = some column ∧ e = .missingColumnValue m.table column) ∧
      ∃ ids, exec ((batch.takeWhile m.isComplete).mapM step) j = (.ok ids, j') := by
  induction batch generalizing j with
  | nil => cases hexec
  | cons r rest ih =>
    rw [List.mapM_cons] at hexec
    cases hr : m.lacking? r.2 false with
    | some column =>
      have hstop : m.isComplete r = false := by
        unfold Mapping.isComplete
        rw [hr]
        rfl
      rw [Action.exec_bind_error (h.lacking r column j hr)] at hexec
      cases hexec
      refine ⟨r, List.mem_cons_self, ⟨column, hr, rfl⟩, [], ?_⟩
      rw [List.takeWhile_cons_of_neg (by simp [hstop])]
      rfl
    | none =>
      have hgo : m.isComplete r := by
        unfold Mapping.isComplete
        rw [hr]
        rfl
      -- a complete row raises no such error, so the rest does
      rcases Action.exec_bind_eq_error hexec with hfirst | ⟨id, j₁, hfirst, hothers⟩
      · exact absurd he (not_ofEntities (h.complete r hr) hfirst)
      rcases Action.exec_bind_eq_error hothers with hrest | ⟨ids, j₂, -, hpure⟩
      · obtain ⟨r', hr', hlacks, ids, hwritten⟩ := ih hrest
        refine ⟨r', List.mem_cons_of_mem _ hr', hlacks, id :: ids, ?_⟩
        rw [List.takeWhile_cons_of_pos hgo, List.mapM_cons, Action.exec_bind_ok hfirst, Action.exec_bind_ok hwritten]
        rfl
      · cases hpure

/-- Rows that were all written were all complete. -/
theorem Careful.all_complete (h : Careful m step) {ids : List Scalar}
    (hexec : exec (batch.mapM step) j = (.ok ids, j')) : batch.all m.isComplete := by
  induction batch generalizing j j' ids with
  | nil => rfl
  | cons r rest ih =>
    rw [List.mapM_cons, Action.exec_bind] at hexec
    rcases hfirst : exec (step r) j with ⟨x | id, j₁⟩
    · rw [hfirst] at hexec
      cases hexec
    rw [hfirst] at hexec
    simp only [Action.exec_bind] at hexec
    rcases hrest : exec (rest.mapM step) j₁ with ⟨x | ids', j₂⟩
    · rw [hrest] at hexec
      cases hexec
    rw [List.all_cons, ih hrest, Bool.and_true]
    unfold Mapping.isComplete
    cases hr : m.lacking? r.2 false with
    | none => rfl
    | some column =>
      rw [h.lacking r column j hr] at hfirst
      cases hfirst

/-! ### Batches -/

/-- What a batch writes before the first row that lacks a value, if there is one: the rows of stored identities come
first, and the others only after all of them. -/
def putComplete (m : Mapping ε) (flatten : Flattener ε) (es : List ε) : Action Unit := do
  let _ ← Action.resolve m.identityProperty
  let batch ← checked m flatten 0 es
  let keys ← storedKeys m ((batch.map Prod.fst).filter fun id => !id.isNull)
  let isStored := fun (e : Scalar × Row) => !e.1.isNull && keys.contains e.1.keyText
  let _ ← updateEach m ((batch.filter isStored).takeWhile m.isComplete)
  if (batch.filter isStored).all m.isComplete then
    let _ ← insertEach m ((batch.filter fun e => !isStored e).takeWhile m.isComplete)

private theorem exists_of_mem_checked {es : List ε} {n : Nat} (h : checked m flatten n es = .ok batch)
    {r : Scalar × Row} (hr : r ∈ batch) : ∃ x ∈ es, flatten m x = .ok r.2 := by
  induction es generalizing n batch with
  | nil =>
    cases h
    cases hr
  | cons x rest ih =>
    unfold checked at h
    split at h
    · cases h
    cases hflat : flatten m x with
    | error err => simp [hflat] at h
    | ok row =>
      cases hrest : checked m flatten (n + 1) rest with
      | error err => simp [hflat, hrest] at h
      | ok others =>
        simp only [hflat, hrest, Except.ok.injEq] at h
        subst h
        rcases List.mem_cons.1 hr with rfl | hr
        · exact ⟨x, List.mem_cons_self, hflat⟩
        · obtain ⟨y, hy, hflat'⟩ := ih hrest hr
          exact ⟨y, List.mem_cons_of_mem _ hy, hflat'⟩

/-- Rows that are updated and then inserted, up to the first one that lacks a value. -/
private theorem writes_error {α : Type} {stored others : List (Scalar × Row)} {next : List Scalar → Action α}
    (hnext : ∀ ids, Program False (fun _ => False) (next ids))
    (h : exec (do
      let updated ← updateEach m stored
      let inserted ← insertEach m others
      next (updated ++ inserted)) j = (.error e, j'))
    (he : e.OfEntities) :
    j'.connection = (exec (do
        let _ ← updateEach m (stored.takeWhile m.isComplete)
        if stored.all m.isComplete then
          let _ ← insertEach m (others.takeWhile m.isComplete) : Action Unit) j).2.connection ∧
      ∃ column, e = .missingColumnValue m.table column ∧
        ∃ r ∈ stored ++ others, m.lacking? r.2 false = some column := by
  -- either the updates end it, or all of them are done and the insertions end it
  rcases Action.exec_bind_eq_error h with hupdate | ⟨updated, j₁, hupdate, hrest⟩
  · rw [updateEach_eq_mapM] at hupdate
    obtain ⟨r, hr, ⟨column, hlacks, rfl⟩, ids, hwritten⟩ := (careful_place m).mapM_error hupdate he
    have hall : stored.all m.isComplete = false := by
      rw [List.all_eq_false]
      exact ⟨r, hr, by simp [Mapping.isComplete, hlacks]⟩
    refine ⟨?_, column, rfl, r, List.mem_append_left _ hr, hlacks⟩
    rw [updateEach_eq_mapM, Action.exec_bind_ok hwritten, hall]
    rfl
  · rw [updateEach_eq_mapM] at hupdate
    have hall := (careful_place m).all_complete hupdate
    have hsame : stored.takeWhile m.isComplete = stored := by
      rw [List.takeWhile_eq_self_iff]
      exact List.all_eq_true.1 hall
    rcases Action.exec_bind_eq_error hrest with hinsert | ⟨inserted, j₂, -, hread⟩
    · rw [insertEach_eq_mapM] at hinsert
      obtain ⟨r, hr, ⟨column, hlacks, rfl⟩, ids, hwritten⟩ := (careful_insert m).mapM_error hinsert he
      refine ⟨?_, column, rfl, r, List.mem_append_right _ hr, hlacks⟩
      rw [hsame, updateEach_eq_mapM, insertEach_eq_mapM, Action.exec_bind_ok hupdate, hall, if_pos rfl,
        Action.exec_bind_ok hwritten]
      rfl
    · exact absurd he (not_ofEntities (hnext _) hread)

private theorem gives_unlabelled :
    (putAll Sample.tags .mapped [Sample.tag "b" "second", Sample.unlabelled "c"]).Gives Sample.connection
      (.error (.missingColumnValue "tags" "label"))
      (Sample.connection.replace
        (Sample.tagTable.appended (Sample.tags.recordIn Sample.tagTable (Sample.tag "b" "second").2)) none) := by
  have hp : Sample.tags.identityProperty = .ok "id" := by rfl
  have hchecked : checked Sample.tags .mapped 0 [Sample.tag "b" "second", Sample.unlabelled "c"] =
      .ok [Sample.tag "b" "second", Sample.unlabelled "c"] := by rfl
  have hids : ∀ id ∈ [Scalar.text "b", .text "c"], Storage.ColumnType.text.Owns id := by
    simp [Storage.ColumnType.Owns]
  obtain ⟨keys, hread, hkeys⟩ := Sample.serves_tags.gives_storedKeys hids
  have hnew : Sample.tagTable.has (.text "b") = false := by decide +kernel
  have hnew' : Sample.tagTable.has (.text "c") = false := by decide +kernel
  have hkey := (hkeys (.text "b") (by simp)).trans hnew
  have hkey' := (hkeys (.text "c") (by simp)).trans hnew'
  have hlacks : Sample.tags.lacking? (Sample.unlabelled "c").2 false = some "label" := by rfl
  have hsecond (c : Connection) : (insert Sample.tags (Sample.unlabelled "c").2).Gives c
      (.error (.missingColumnValue "tags" "label")) c := fun events =>
    ⟨events, (careful_insert Sample.tags).lacking (Sample.unlabelled "c") "label" _ hlacks⟩
  have hfirst := Sample.serves_tags.gives_insert rfl (Sample.carries_tag "b" "second") hnew
  unfold putAll
  rw [hp]
  refine (Action.gives_resolve "id" _).bind ?_
  rw [hchecked]
  refine (Action.gives_lift _ _).bind (hread.bind ?_)
  have hnone : ∀ e ∈ [Sample.tag "b" "second", Sample.unlabelled "c"],
      (!e.1.isNull && keys.contains e.1.keyText) = false := by
    intro e he
    rcases List.mem_cons.1 he with rfl | he
    · exact hkey
    · rw [List.mem_singleton.1 he]
      exact hkey'
  have hstored : [Sample.tag "b" "second", Sample.unlabelled "c"].filter
      (fun e => !e.1.isNull && keys.contains e.1.keyText) = [] :=
    List.filter_eq_nil_iff.2 fun e he => by rw [hnone e he]; exact Bool.false_ne_true
  have hothers : [Sample.tag "b" "second", Sample.unlabelled "c"].filter
      (fun e => !(!e.1.isNull && keys.contains e.1.keyText)) = [Sample.tag "b" "second", Sample.unlabelled "c"] :=
    List.filter_eq_self.2 fun e he => by rw [hnone e he]; rfl
  simp only [hstored, hothers]
  refine (Action.gives_pure [] _).bind ?_
  have hwritten := hfirst.bind (k := fun id => do return id :: (← insertEach Sample.tags [Sample.unlabelled "c"]))
    (hsecond _).bind_error.bind_error
  exact hwritten.bind_error

/-- An error that is caused by the entities of a batch leaves exactly what was written before the first row that lacks
a value. Only such a row can be found after something was written: an entity without identity, or one that cannot be
flattened, leaves everything as it was. -/
theorem putAll_connection_of_error {es : List ε} {c : Connection} (h : (putAll m flatten es).runOn c = (.error e, j))
    (he : e.OfEntities) :
    j.connection = ((putComplete m flatten es).runOn c).2.connection ∧
      ((∃ column, e = .missingColumnValue m.table column ∧
          ∃ x ∈ es, ∃ row, flatten m x = .ok row ∧ m.lacking? row false = some column) ∨
        j.connection = c) := by
  rw [Action.runOn_eq_exec] at h ⊢
  unfold putAll at h
  unfold putComplete
  by_cases hempty : es.isEmpty
  · rw [hempty] at h
    cases h
  simp only [hempty, Bool.false_eq_true, if_false] at h
  cases hp : m.identityProperty with
  | error err =>
    rw [hp] at h
    cases h
    exact ⟨rfl, .inr rfl⟩
  | ok property =>
    rw [hp, Action.exec_bind_ok (Action.exec_resolve_ok property _)] at h
    rw [Action.exec_bind_ok (Action.exec_resolve_ok property _)]
    cases hchecked : checked m flatten 0 es with
    | error err =>
      rw [hchecked] at h
      cases h
      exact ⟨rfl, .inr rfl⟩
    | ok batch =>
      rw [hchecked, Action.exec_bind_ok (Action.exec_lift (.ok batch) _)] at h
      rw [Action.exec_bind_ok (Action.exec_lift (.ok batch) _)]
      have hkeys : Program False (fun _ => False) (storedKeys m ((batch.map Prod.fst).filter fun id => !id.isNull)) :=
        storedKeys_program hp _
      rcases Action.exec_bind_eq_error h with hread | ⟨keys, j₁, hread, hwrites⟩
      · exact absurd he (not_ofEntities hkeys hread)
      rw [Action.exec_bind_ok hread]
      obtain ⟨hconnection, column, hcolumn, r, hr, hlacks⟩ :=
        writes_error (fun ids => findBy_oneOf_program hp ids rfl) hwrites he
      refine ⟨hconnection, .inl ⟨column, hcolumn, ?_⟩⟩
      have hmem : r ∈ batch := by
        rcases List.mem_append.1 hr with hr | hr
        · exact (List.mem_filter.1 hr).1
        · exact (List.mem_filter.1 hr).1
      obtain ⟨x, hx, hflat⟩ := exists_of_mem_checked hchecked hmem
      exact ⟨x, hx, r.2, hflat, hlacks⟩

/-- The first of two new tags stays stored although the second one lacks its label. -/
theorem putAll_keeps_first_tag :
    ∃ j, (putAll Sample.tags .mapped [Sample.tag "b" "second", Sample.unlabelled "c"]).runOn Sample.connection =
        (.error (.missingColumnValue "tags" "label"), j) ∧
      j.connection.database ≠ Sample.connection.database := by
  obtain ⟨events, hrun⟩ := gives_unlabelled.runOn
  refine ⟨_, hrun, fun hsame => ?_⟩
  have hlength := congrArg (fun d => d.tables.map fun t => t.records.length) hsame
  have hleft : (Sample.connection.replace (Sample.tagTable.appended
      (Sample.tags.recordIn Sample.tagTable (Sample.tag "b" "second").2)) none).database.tables.map
        (fun t => t.records.length) = [2] := rfl
  rw [hleft] at hlength
  exact absurd hlength (by decide)

/-- What is left of that batch is what was written before the tag without a label. -/
theorem putAll_connection_of_error_of_tags :
    ∃ j, (putAll Sample.tags .mapped [Sample.tag "b" "second", Sample.unlabelled "c"]).runOn Sample.connection =
        (.error (.missingColumnValue "tags" "label"), j) ∧
      (RepositoryError.missingColumnValue "tags" "label").OfEntities ∧
      j.connection = ((putComplete Sample.tags .mapped
        [Sample.tag "b" "second", Sample.unlabelled "c"]).runOn Sample.connection).2.connection := by
  obtain ⟨events, hrun⟩ := gives_unlabelled.runOn
  exact ⟨_, hrun, trivial, (putAll_connection_of_error hrun trivial).1⟩

end Rows

end CriteriaStore
