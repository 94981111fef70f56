import CriteriaStore.Proofs.Repository.Resolving
import CriteriaStore.Proofs.Repository.Sample

/-!
# Batches that are rejected

A batch is checked entity by entity, and the first one with a fault decides. An entity that has no identity, where storage
does not choose one, is reported by its position; it is not flattened any more. Otherwise its fault is that it cannot be
flattened (`checked_eq_error_iff`).

Nothing behind the check raises such an error, so these are exactly the batches that are rejected, whatever is stored
(`putAll_rejects`).
-/

namespace CriteriaStore

open Storage (Connection)
open CriteriaStore.Action (Program exec)

variable {ε : Type}

/-- Whether an error turns a batch away before anything is done. -/
def RepositoryError.IsRejection : RepositoryError → Prop
  | criteria _ | notAnIdentity _ => True
  | _ => False

namespace Rows

variable {m : Mapping ε} {flatten : Flattener ε} {es before : List ε} {x : ε} {e : RepositoryError} {index : Nat}

/-! ### One entity -/

/-- What is wrong with the entity at a position of a batch. -/
def fault? (m : Mapping ε) (flatten : Flattener ε) (index : Nat) (x : ε) : Option RepositoryError :=
  if (m.identityOf x).isNull && !m.generatesIdentity then some (.notAnIdentity index)
  else
    match flatten m x with
    | .error err => some (.criteria err)
    | .ok _ => none

/-- Whether an entity has an identity, or storage chooses one for it. -/
def Identified (m : Mapping ε) (x : ε) : Prop := m.generatesIdentity = false → (m.identityOf x).isNull = false

/-- Whether nothing is wrong with an entity. -/
def Admits (m : Mapping ε) (flatten : Flattener ε) (x : ε) : Prop := Identified m x ∧ ∃ row, flatten m x = .ok row

private theorem lacks_iff : ((m.identityOf x).isNull && !m.generatesIdentity) ↔ ¬Identified m x := by
  unfold Identified
  cases m.generatesIdentity <;> simp

theorem fault?_of_not_identified (h : ¬Identified m x) (index : Nat) :
    fault? m flatten index x = some (.notAnIdentity index) :=
  if_pos (lacks_iff.2 h)

theorem fault?_of_identified (h : Identified m x) (index : Nat) :
    fault? m flatten index x = match flatten m x with
      | .error err => some (.criteria err)
      | .ok _ => none :=
  if_neg fun hlacks => lacks_iff.1 hlacks h

theorem fault?_eq_notAnIdentity {i : Nat} :
    fault? m flatten index x = some (.notAnIdentity i) ↔ index = i ∧ ¬Identified m x := by
  by_cases h : Identified m x
  · rw [fault?_of_identified h]
    cases flatten m x <;> simp [h]
  · rw [fault?_of_not_identified h]
    simp [h]

theorem fault?_eq_criteria {err : CriteriaError} :
    fault? m flatten index x = some (.criteria err) ↔ Identified m x ∧ flatten m x = .error err := by
  by_cases h : Identified m x
  · rw [fault?_of_identified h]
    cases flatten m x <;> simp [h]
  · rw [fault?_of_not_identified h]
    simp [h]

theorem fault?_eq_none : fault? m flatten index x = none ↔ Admits m flatten x := by
  unfold Admits
  by_cases h : Identified m x
  · rw [fault?_of_identified h]
    cases flatten m x <;> simp [h]
  · rw [fault?_of_not_identified h]
    simp [h]

/-! ### The check of a batch -/

private theorem checked_cons_of_fault (h : fault? m flatten index x = some e) (rest : List ε) :
    checked m flatten index (x :: rest) = .error e := by
  rw [checked]
  by_cases hid : Identified m x
  · rw [fault?_of_identified hid] at h
    rw [if_neg fun hlacks => lacks_iff.1 hlacks hid]
    cases hflat : flatten m x with
    | ok row => simp [hflat] at h
    | error err =>
      simp only [hflat, Option.some.injEq] at h
      rw [← h]
  · rw [fault?_of_not_identified hid] at h
    rw [if_pos (lacks_iff.2 hid), Option.some.inj h]

private theorem checked_cons_of_admits (h : Admits m flatten x) (rest : List ε) :
    checked m flatten index (x :: rest) = .error e ↔ checked m flatten (index + 1) rest = .error e := by
  obtain ⟨hid, row, hflat⟩ := h
  rw [checked, if_neg fun hlacks => lacks_iff.1 hlacks hid, hflat]
  cases hrest : checked m flatten (index + 1) rest with
  | ok batch => simp
  | error err => simp

/-- The check of a batch fails on its first entity that cannot be stored. -/
theorem checked_eq_error_iff :
    checked m flatten index es = .error e ↔
      ∃ before x after, es = before ++ x :: after ∧ (∀ y ∈ before, Admits m flatten y) ∧
        fault? m flatten (index + before.length) x = some e := by
  induction es generalizing index with
  | nil =>
    constructor
    · intro h
      cases h
    · rintro ⟨before, x, after, hes, -⟩
      simp at hes
  | cons y rest ih =>
    have hlength (before : List ε) : index + (y :: before).length = index + 1 + before.length := by
      rw [List.length_cons]
      omega
    cases hy : fault? m flatten index y with
    | some e' =>
      rw [checked_cons_of_fault hy rest]
      constructor
      · intro h
        cases h
        exact ⟨[], y, rest, rfl, List.forall_mem_nil _, hy⟩
      · rintro ⟨before, x, after, hes, hbefore, hx⟩
        cases before with
        | nil =>
          obtain ⟨rfl, rfl⟩ := List.cons.inj hes
          rw [List.length_nil, Nat.add_zero, hy] at hx
          rw [Option.some.inj hx]
        | cons y' before =>
          obtain ⟨rfl, -⟩ := List.cons.inj hes
          rw [fault?_eq_none.2 (hbefore y List.mem_cons_self)] at hy
          cases hy
    | none =>
      have hadmits := fault?_eq_none.1 hy
      rw [checked_cons_of_admits hadmits, ih]
      constructor
      · rintro ⟨before, x, after, rfl, hbefore, hx⟩
        refine ⟨y :: before, x, after, rfl, List.forall_mem_cons.2 ⟨hadmits, hbefore⟩, ?_⟩
        rw [hlength]
        exact hx
      · rintro ⟨before, x, after, hes, hbefore, hx⟩
        cases before with
        | nil =>
          obtain ⟨rfl, rfl⟩ := List.cons.inj hes
          rw [List.length_nil, Nat.add_zero, hy] at hx
          cases hx
        | cons y' before =>
          obtain ⟨rfl, rfl⟩ := List.cons.inj hes
          rw [hlength] at hx
          exact ⟨before, x, after, rfl, (List.forall_mem_cons.1 hbefore).2, hx⟩

/-! ### What follows the check -/

/-- A batch that fails its check is turned away before anything is done. -/
theorem runOn_putAll_of_checked (hidentity : m.identity ∈ m.properties.columns) (hne : es ≠ [])
    (h : checked m flatten 0 es = .error e) (c : Connection) :
    (putAll m flatten es).runOn c = (.error e, { connection := c }) := by
  obtain ⟨property, hp⟩ := Mapping.exists_identityProperty hidentity
  have hempty : es.isEmpty = false := by simpa using hne
  rw [Action.runOn_eq_exec]
  unfold putAll
  rw [hempty, hp]
  simp only [Bool.false_eq_true, if_false]
  rw [Action.exec_bind_ok (Action.exec_resolve_ok property _), h]
  rfl

/-- A batch that passes its check is not turned away later. -/
theorem checked_of_runOn_putAll (hidentity : m.identity ∈ m.properties.columns) (he : e.IsRejection) {c : Connection}
    (h : ((putAll m flatten es).runOn c).1 = .error e) : checked m flatten 0 es = .error e := by
  obtain ⟨property, hp⟩ := Mapping.exists_identityProperty hidentity
  rw [Action.runOn_eq_exec] at h
  unfold putAll at h
  by_cases hempty : es.isEmpty
  · rw [hempty] at h
    cases h
  simp only [hempty, Bool.false_eq_true, if_false, hp] at h
  rw [Action.exec_bind_ok (Action.exec_resolve_ok property _)] at h
  cases hchecked : checked m flatten 0 es with
  | error e' =>
    rw [hchecked] at h
    cases h
    rfl
  | ok batch =>
    rw [hchecked, Action.exec_bind_ok (Action.exec_lift (.ok batch) _)] at h
    have hprogram : Program True (fun e => ¬e.IsRejection) (putChecked m property batch) :=
      putChecked_program hp (fun _ h => h) batch
    rcases hprogram.raises (Prod.ext h rfl) with hother | ⟨phase, s, rfl⟩
    · exact absurd he hother
    · exact he.elim

/-- A batch is turned away for a missing identity exactly when storage does not choose identities, the entity at the
reported position is the first one without, and every entity before it is flattened. It is turned away for an entity that
cannot be flattened, with the error of that entity, exactly when every entity before it is flattened and, where storage does
not choose identities, neither it nor any of them is without one. What is stored has no part in this, and stays as it is. -/
theorem putAll_rejects (hidentity : m.identity ∈ m.properties.columns) (flatten : Flattener ε) (hne : es ≠ [])
    (c : Connection) :
    (∀ i, ((putAll m flatten es).runOn c).1 = .error (.notAnIdentity i) ↔
      m.generatesIdentity = false ∧ ∃ before x after, es = before ++ x :: after ∧ before.length = i ∧
        (m.identityOf x).isNull ∧ (∀ y ∈ before, (m.identityOf y).isNull = false) ∧
        ∀ y ∈ before, ∃ row, flatten m y = .ok row) ∧
      (∀ err, ((putAll m flatten es).runOn c).1 = .error (.criteria err) ↔
        ∃ before x after, es = before ++ x :: after ∧ flatten m x = .error err ∧
          (∀ y ∈ before, ∃ row, flatten m y = .ok row) ∧
          (m.generatesIdentity = false → ∀ y ∈ before ++ [x], (m.identityOf y).isNull = false)) ∧
      ∀ e, e.IsRejection → ((putAll m flatten es).runOn c).1 = .error e →
        ∀ c', (putAll m flatten es).runOn c' = (.error e, { connection := c' }) := by
  have hchecked (e : RepositoryError) (he : e.IsRejection) :
      ((putAll m flatten es).runOn c).1 = .error e ↔ checked m flatten 0 es = .error e := by
    constructor
    · exact checked_of_runOn_putAll hidentity he
    · intro h
      rw [runOn_putAll_of_checked hidentity hne h]
  refine ⟨?_, ?_, ?_⟩
  · intro i
    rw [hchecked (.notAnIdentity i) trivial, checked_eq_error_iff]
    simp only [Nat.zero_add, fault?_eq_notAnIdentity]
    constructor
    · rintro ⟨before, x, after, hes, hbefore, hi, hx⟩
      obtain ⟨hgen, hnull⟩ := Classical.not_imp.1 hx
      refine ⟨hgen, before, x, after, hes, hi, by simpa using hnull, ?_, fun y hy => (hbefore y hy).2⟩
      exact fun y hy => (hbefore y hy).1 hgen
    · rintro ⟨hgen, before, x, after, hes, hi, hnull, hids, hrows⟩
      refine ⟨before, x, after, hes, fun y hy => ⟨fun _ => hids y hy, hrows y hy⟩, hi, fun hx => ?_⟩
      rw [hx hgen] at hnull
      cases hnull
  · intro err
    rw [hchecked (.criteria err) trivial, checked_eq_error_iff]
    simp only [fault?_eq_criteria, List.forall_mem_append, List.forall_mem_singleton]
    constructor
    · rintro ⟨before, x, after, hes, hbefore, hid, hx⟩
      refine ⟨before, x, after, hes, hx, fun y hy => (hbefore y hy).2, fun hgen => ?_⟩
      exact ⟨fun y hy => (hbefore y hy).1 hgen, hid hgen⟩
    · rintro ⟨before, x, after, hes, hx, hrows, hids⟩
      refine ⟨before, x, after, hes, fun y hy => ⟨fun hgen => ?_, hrows y hy⟩, fun hgen => (hids hgen).2, hx⟩
      exact (hids hgen).1 y hy
  · intro e he h c'
    exact runOn_putAll_of_checked hidentity hne ((hchecked e he).1 h) c'

/-- Three tags, of which the second is no row and the third has no identity: whichever comes first is reported. -/
theorem putAll_rejects_first :
    let blank : CriteriaError := .unflattenable "tags" (.notExposed "label")
    let flatten : Flattener (Scalar × Row) := fun _ x => if x.2.entries = [] then .error blank else .ok x.2
    let nameless : Scalar × Row := (.null, (Sample.tag "c" "third").2)
    Sample.tags.identity ∈ Sample.tags.properties.columns ∧
      ((putAll Sample.tags flatten [Sample.tag "b" "second", nameless, (.text "d", ∅)]).runOn Sample.connection).1 =
        .error (.notAnIdentity 1) ∧
      ((putAll Sample.tags flatten [Sample.tag "b" "second", (.text "d", ∅), nameless]).runOn Sample.connection).1 =
        .error (.criteria blank) := by
  intro blank flatten nameless
  have hidentity : Sample.tags.identity ∈ Sample.tags.properties.columns := by decide
  have hnamed : ∀ y ∈ [Sample.tag "b" "second"], (Sample.tags.identityOf y).isNull = false := by
    intro y hy
    obtain rfl := List.mem_singleton.1 hy
    rfl
  have hflat : ∀ y ∈ [Sample.tag "b" "second"], ∃ row, flatten Sample.tags y = .ok row := by
    intro y hy
    obtain rfl := List.mem_singleton.1 hy
    exact ⟨_, rfl⟩
  refine ⟨hidentity, ?_, ?_⟩
  · refine ((putAll_rejects hidentity flatten (List.cons_ne_nil _ _) Sample.connection).1 1).2 ⟨rfl, ?_⟩
    exact ⟨[_], nameless, _, rfl, rfl, rfl, hnamed, hflat⟩
  · refine ((putAll_rejects hidentity flatten (List.cons_ne_nil _ _) Sample.connection).2.1 blank).2 ?_
    refine ⟨[_], (.text "d", ∅), _, rfl, rfl, hflat, fun _ => ?_⟩
    exact List.forall_mem_append.2 ⟨hnamed, List.forall_mem_singleton.2 rfl⟩

end Rows

end CriteriaStore
