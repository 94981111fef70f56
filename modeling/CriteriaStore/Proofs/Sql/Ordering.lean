import CriteriaStore.Proofs.Criteria.Naming
import Mathlib.Data.List.Forall2

/-!
# Sorting a selection

A selection is sorted step by step: first the property of every key is resolved, and only then the columns are put behind
those that the selection is sorted by already (`Sorting.orderBy`). Resolving changes nothing and putting columns behind
others does not fail, so sorting is all or nothing: it fails on the first key whose property is not mapped and leaves the
selection as it is, or every key adds its column, in the order of the keys (`Sorting.orderBy_allOrNothing`).
-/

namespace CriteriaStore

/-! ### Traversals that may fail -/

section Traversal

variable {α β ε : Type} {f : α → Except ε β} {xs : List α}

/-- A traversal succeeds when every step does. -/
theorem mapM_eq_ok_iff {ys : List β} : xs.mapM f = .ok ys ↔ List.Forall₂ (fun x y => f x = .ok y) xs ys := by
  induction xs generalizing ys with
  | nil =>
    have hnil : ([] : List α).mapM f = .ok ([] : List β) := rfl
    rw [hnil, List.forall₂_nil_left_iff]
    exact ⟨fun h => (Except.ok.inj h).symm, fun h => congrArg Except.ok h.symm⟩
  | cons x rest ih =>
    rw [List.forall₂_cons_left_iff]
    constructor
    · intro h
      obtain ⟨y, ys', hx, hrest, rfl⟩ := exists_of_mapM_cons_ok h
      exact ⟨y, ys', hx, ih.1 hrest, rfl⟩
    · rintro ⟨y, ys', hx, hrest, rfl⟩
      rw [List.mapM_cons, hx, ih.2 hrest]
      rfl

/-- A traversal fails with the first step that does. -/
theorem mapM_eq_error_iff {e : ε} :
    xs.mapM f = .error e ↔
      ∃ before x after, xs = before ++ x :: after ∧ (∀ y ∈ before, ∃ z, f y = .ok z) ∧ f x = .error e := by
  induction xs with
  | nil => simp [pure, Except.pure]
  | cons x rest ih =>
    constructor
    · intro h
      rcases error_of_mapM_cons_error h with hx | ⟨y, hx, hrest⟩
      · exact ⟨[], x, rest, rfl, by simp, hx⟩
      · obtain ⟨before, x', after, rfl, hbefore, hx'⟩ := ih.1 hrest
        exact ⟨x :: before, x', after, rfl, List.forall_mem_cons.2 ⟨⟨y, hx⟩, hbefore⟩, hx'⟩
    · rintro ⟨before, x', after, hsplit, hbefore, hx'⟩
      cases before with
      | nil =>
        obtain ⟨rfl, rfl⟩ := List.cons.inj hsplit
        rw [List.mapM_cons, hx']
        rfl
      | cons b before =>
        obtain ⟨rfl, rfl⟩ := List.cons.inj hsplit
        obtain ⟨⟨z, hz⟩, hbefore⟩ := List.forall_mem_cons.1 hbefore
        rw [List.mapM_cons, hz, ih.2 ⟨before, x', after, rfl, hbefore, hx'⟩]
        rfl

end Traversal

/-! ### Columns of sort keys -/

variable {properties : PropertyMap} {s : SortOrder}

namespace SortOrder

/-- Whether a sort column stands for a sort key. -/
def Resolves (properties : PropertyMap) (k : SortKey) (t : Sql.OrderTerm) : Prop :=
  properties.get? k.property = some t.column ∧ t.direction = k.direction

private theorem term_eq_ok {k : SortKey} {t : Sql.OrderTerm} :
    (do let column ← PropertyMap.column properties k.property
        return ⟨column, k.direction⟩ : Except CriteriaError Sql.OrderTerm) = .ok t ↔ Resolves properties k t := by
  obtain ⟨column, direction⟩ := t
  unfold Resolves PropertyMap.column
  cases hget : properties.get? k.property with
  | none => simp [bind, Except.bind]
  | some c => simp [bind, Except.bind, pure, Except.pure, eq_comm]

private theorem term_eq_error {k : SortKey} {e : CriteriaError} :
    (do let column ← PropertyMap.column properties k.property
        return ⟨column, k.direction⟩ : Except CriteriaError Sql.OrderTerm) = .error e ↔
      properties.get? k.property = none ∧ e = .unmappedProperty k.property := by
  unfold PropertyMap.column
  cases hget : properties.get? k.property with
  | none => simp [bind, Except.bind, eq_comm]
  | some c => simp [bind, Except.bind, pure, Except.pure]

theorem terms_eq_ok_iff {columns : List Sql.OrderTerm} :
    s.terms properties = .ok columns ↔ List.Forall₂ (Resolves properties) s.keys columns := by
  unfold terms
  rw [mapM_eq_ok_iff]
  simp only [term_eq_ok]

theorem terms_eq_error_iff {e : CriteriaError} :
    s.terms properties = .error e ↔
      ∃ before k after, s.keys = before ++ k :: after ∧ (∀ k' ∈ before, (properties.get? k'.property).isSome) ∧
        properties.get? k.property = none ∧ e = .unmappedProperty k.property := by
  have hok (k : SortKey) : (∃ t, Resolves properties k t) ↔ (properties.get? k.property).isSome := by
    rw [Option.isSome_iff_exists]
    constructor
    · rintro ⟨t, ht, -⟩
      exact ⟨t.column, ht⟩
    · rintro ⟨column, hcolumn⟩
      exact ⟨⟨column, k.direction⟩, hcolumn, rfl⟩
  unfold terms
  rw [mapM_eq_error_iff]
  simp only [term_eq_ok, term_eq_error, hok]

/-- All keys are resolved when every property is mapped. -/
theorem exists_terms_iff :
    (∃ columns, s.terms properties = .ok columns) ↔ ∀ k ∈ s.keys, (properties.get? k.property).isSome := by
  constructor
  · rintro ⟨columns, hcolumns⟩ k hk
    have hresolved := terms_eq_ok_iff.1 hcolumns
    obtain ⟨i, hi, rfl⟩ := List.mem_iff_getElem.1 hk
    have hsame : properties.get? s.keys[i].property = _ := (hresolved.get hi (hresolved.length_eq ▸ hi)).1
    rw [hsame]
    rfl
  · intro hall
    cases hterms : s.terms properties with
    | ok columns => exact ⟨columns, rfl⟩
    | error e =>
      obtain ⟨before, k, after, hkeys, -, hunmapped, -⟩ := terms_eq_error_iff.1 hterms
      have hk := hall k (by simp [hkeys])
      simp [hunmapped] at hk

end SortOrder

/-! ### Sorting step by step -/

/-- A selection that is being sorted, and the pass that resolves its properties. -/
structure Sorting where
  pass : Pass
  selection : Sql.Select

namespace Sorting

/-- A step on the way, which may fail and then leaves what was done before it. -/
abbrev Step (α : Type) := ExceptT CriteriaError (StateM Sorting) α

/-- The result of a step, and what it leaves. -/
def exec {α : Type} (a : Step α) (x : Sorting) : Except CriteriaError α × Sorting := (ExceptT.run a).run x

/-- The column of a property. -/
def column (property : String) : Step String := do
  match PropertyMap.column (← get).pass.properties property with
  | .ok c => return c
  | .error e => throw e

/-- The selection with further sort columns behind its own. -/
def extend (x : Sorting) (terms : List Sql.OrderTerm) : Sorting :=
  { x with selection := { x.selection with order := x.selection.order ++ terms } }

/-- Sort by the columns of keys: all of them are resolved before the first one is added. -/
def orderBy (s : SortOrder) : Step Unit := do
  let terms ← s.keys.mapM fun k => do return (⟨← column k.property, k.direction⟩ : Sql.OrderTerm)
  terms.forM fun t => modify fun x => x.extend [t]

variable {α β : Type} {x : Sorting}

theorem exec_bind (a : Step α) (k : α → Step β) (x : Sorting) :
    exec (a >>= k) x = match exec a x with
      | (.ok y, x') => exec (k y) x'
      | (.error e, x') => (.error e, x') := by
  show (ExceptT.run (a >>= k)).run x = match (ExceptT.run a).run x with
    | (.ok y, x') => (ExceptT.run (k y)).run x'
    | (.error e, x') => (.error e, x')
  rw [ExceptT.run_bind, StateT.run_bind]
  generalize (ExceptT.run a).run x = r
  obtain ⟨y, x'⟩ := r
  cases y <;> rfl

theorem extend_nil (x : Sorting) : x.extend [] = x := by simp [extend]

theorem extend_extend (x : Sorting) (ts us : List Sql.OrderTerm) : (x.extend ts).extend us = x.extend (ts ++ us) := by
  simp [extend]

theorem exec_column (property : String) (x : Sorting) :
    exec (column property) x = (PropertyMap.column x.pass.properties property, x) := by
  have hget : exec get x = (.ok x, x) := rfl
  unfold column
  rw [exec_bind, hget]
  simp only
  cases PropertyMap.column x.pass.properties property <;> rfl

/-- Resolving the keys leaves the selection and the pass as they are. -/
theorem exec_terms (ks : List SortKey) (x : Sorting) :
    exec (ks.mapM fun k => do return (⟨← column k.property, k.direction⟩ : Sql.OrderTerm)) x =
      (SortOrder.terms x.pass.properties ⟨ks⟩, x) := by
  unfold SortOrder.terms
  induction ks with
  | nil => rfl
  | cons k rest ih =>
    rw [List.mapM_cons, List.mapM_cons, exec_bind, exec_bind, exec_column]
    cases hcolumn : PropertyMap.column x.pass.properties k.property with
    | error e => rfl
    | ok c =>
      have hfirst : exec (pure ⟨c, k.direction⟩ : Step Sql.OrderTerm) x = (.ok ⟨c, k.direction⟩, x) := rfl
      simp only [hfirst, exec_bind, ih]
      cases (rest.mapM fun k => do
          let column ← PropertyMap.column x.pass.properties k.property
          return (⟨column, k.direction⟩ : Sql.OrderTerm)) <;> rfl

/-- Adding columns does not fail. -/
theorem exec_forM (ts : List Sql.OrderTerm) (x : Sorting) :
    exec (ts.forM fun t => modify fun x => x.extend [t]) x = (.ok (), x.extend ts) := by
  induction ts generalizing x with
  | nil =>
    rw [extend_nil]
    rfl
  | cons t rest ih =>
    have hfirst : exec (modify fun x => x.extend [t]) x = (.ok (), x.extend [t]) := rfl
    show exec ((modify fun x => x.extend [t]) >>= fun _ => rest.forM fun t => modify fun x => x.extend [t]) x = _
    rw [exec_bind, hfirst]
    simp only [ih, extend_extend, List.cons_append, List.nil_append]

theorem exec_orderBy (s : SortOrder) (x : Sorting) :
    exec (orderBy s) x = match s.terms x.pass.properties with
      | .ok terms => (.ok (), x.extend terms)
      | .error e => (.error e, x) := by
  unfold orderBy
  rw [exec_bind, exec_terms]
  cases s.terms x.pass.properties with
  | ok terms => exact exec_forM terms x
  | error e => rfl

/-- The selection of a pass is sorted as step by step. -/
theorem answer_orderBy (s : SortOrder) (x : Sorting) :
    Pass.answer (.orderBy x.selection s) x.pass =
      ((exec (orderBy s) x).1.map fun _ => .sorted (exec (orderBy s) x).2.selection, (exec (orderBy s) x).2.pass) := by
  rw [exec_orderBy]
  show ((x.selection.orderBy x.pass.properties s).map Pass.Reply.sorted, x.pass) = _
  unfold Sql.Select.orderBy
  cases s.terms x.pass.properties <;> rfl

/-- Sorting fails exactly when a property is not mapped, and then it names the first such key and leaves the selection and
the pass as they were. Otherwise one column for each key, repeated keys included, is put behind the columns that the
selection is sorted by already, in the order of the keys and with their directions, and nothing else of the selection and
nothing of the pass is changed. What a pass replies is this result. -/
theorem orderBy_allOrNothing (s : SortOrder) (x : Sorting) :
    (∀ e, (exec (orderBy s) x).1 = .error e ↔
      ∃ before k after, s.keys = before ++ k :: after ∧
        (∀ k' ∈ before, (x.pass.properties.get? k'.property).isSome) ∧ x.pass.properties.get? k.property = none ∧
        e = .unmappedProperty k.property) ∧
      (∀ e, (exec (orderBy s) x).1 = .error e → (exec (orderBy s) x).2 = x) ∧
      ((exec (orderBy s) x).1 = .ok () ↔ ∀ k ∈ s.keys, (x.pass.properties.get? k.property).isSome) ∧
      ((exec (orderBy s) x).1 = .ok () →
        ∃ terms, List.Forall₂ (SortOrder.Resolves x.pass.properties) s.keys terms ∧
          (exec (orderBy s) x).2 =
            { x with selection := { x.selection with order := x.selection.order ++ terms } }) ∧
      Pass.answer (.orderBy x.selection s) x.pass =
        ((exec (orderBy s) x).1.map fun _ => .sorted (exec (orderBy s) x).2.selection,
          (exec (orderBy s) x).2.pass) := by
  have hanswer := answer_orderBy s x
  have hall : (∃ columns, s.terms x.pass.properties = .ok columns) ↔ _ := SortOrder.exists_terms_iff
  simp only [← SortOrder.terms_eq_error_iff]
  cases hterms : s.terms x.pass.properties with
  | error e =>
    have hexec : exec (orderBy s) x = (.error e, x) := by rw [exec_orderBy, hterms]
    have hfailed : ¬∀ k ∈ s.keys, (x.pass.properties.get? k.property).isSome := by
      intro hmapped
      obtain ⟨columns, hcolumns⟩ := hall.2 hmapped
      rw [hterms] at hcolumns
      cases hcolumns
    rw [hexec] at hanswer ⊢
    refine ⟨fun e' => ?_, fun _ _ => rfl, iff_of_false nofun hfailed, nofun, hanswer⟩
    simp
  | ok columns =>
    have hexec : exec (orderBy s) x = (.ok (), x.extend columns) := by rw [exec_orderBy, hterms]
    have hresolved := SortOrder.terms_eq_ok_iff.1 hterms
    rw [hexec] at hanswer ⊢
    exact ⟨fun _ => iff_of_false nofun nofun, nofun, iff_of_true rfl (hall.1 ⟨columns, hterms⟩),
      fun _ => ⟨columns, hresolved, rfl⟩, hanswer⟩

/-- A repeated key and two properties of one column are all added behind a column that is there; a color, which is not
mapped, stops another sort order at its second key. -/
theorem orderBy_allOrNothing_of_shared_column :
    let x : Sorting :=
      { pass := { properties := OrderedMap.ofList [("id", "tag_id"), ("key", "tag_id"), ("name", "label")] }
        selection := { table := "tags", order := [⟨"label", .desc⟩] } }
    let shared : SortOrder := ⟨[⟨"id", .asc⟩, ⟨"key", .desc⟩, ⟨"id", .desc⟩]⟩
    let unmapped : SortOrder := ⟨[⟨"id", .asc⟩, ⟨"color", .asc⟩, ⟨"size", .asc⟩]⟩
    ((exec (orderBy shared) x).1 = .ok () ∧
        (exec (orderBy shared) x).2.selection.order =
          [⟨"label", .desc⟩, ⟨"tag_id", .asc⟩, ⟨"tag_id", .desc⟩, ⟨"tag_id", .desc⟩]) ∧
      (exec (orderBy unmapped) x).1 = .error (.unmappedProperty "color") ∧ (exec (orderBy unmapped) x).2 = x := by
  intro x shared unmapped
  obtain ⟨-, -, hok, -, -⟩ := orderBy_allOrNothing shared x
  obtain ⟨herror, hkept, -, -, -⟩ := orderBy_allOrNothing unmapped x
  have hcolor : (exec (orderBy unmapped) x).1 = .error (.unmappedProperty "color") :=
    (herror _).2 ⟨[⟨"id", .asc⟩], ⟨"color", .asc⟩, [⟨"size", .asc⟩], rfl, by decide, by decide, rfl⟩
  exact ⟨⟨hok.2 (by decide), rfl⟩, hcolor, hkept _ hcolor⟩

end Sorting

end CriteriaStore
