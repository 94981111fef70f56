import CriteriaStore.Proofs.Criteria.Meaning
import CriteriaStore.Proofs.Criteria.Naming

/-!
# Filters that are rejected

Compilation stops at the first condition that does not fit, that is, whose property has no column or whose operand is not
one that its operator accepts (`Condition.Fits`).

* The error is about that condition (`Condition.rejection`): a property without column comes before an operand that does
  not fit.
* What was bound on the way is what the conditions before it bind. They make a filter of their own (`Filter.take`), so this
  can be said without looking inside the compilation (`Filter.compile_rejects`).
-/

namespace CriteriaStore

/-! ### The first conditions of a filter -/

namespace Branch

theorem mem_conditions {b : Branch} {op : Operator} {c : Condition} :
    (op, c) ∈ b.conditions ↔ c ∈ b.get op ∧ c.operand.isEffective := by
  unfold conditions
  rw [List.mem_filter, List.mem_flatMap]
  refine and_congr_left fun _ => ?_
  constructor
  · rintro ⟨⟨op', cs⟩, hcs, hc⟩
    obtain ⟨c', hc', he⟩ := List.mem_map.1 hc
    obtain ⟨rfl, rfl⟩ := Prod.mk.inj he
    rw [get, OrderedMap.get?_eq_some_iff.2 hcs]
    exact hc'
  · intro hc
    unfold get at hc
    cases hcs : b.groups.get? op with
    | none =>
      rw [hcs] at hc
      cases hc
    | some cs =>
      rw [hcs] at hc
      exact ⟨(op, cs), OrderedMap.get?_eq_some_iff.1 hcs, List.mem_map_of_mem hc⟩

/-- The first conditions of groups, those that ask for nothing left out. -/
private def takeGroups : Nat → List (Operator × List Condition) → List (Operator × List Condition)
  | _, [] => []
  | n, (op, cs) :: rest =>
    let effective := cs.filter fun c => c.operand.isEffective
    (op, effective.take n) :: takeGroups (n - effective.length) rest

private theorem map_fst_takeGroups (n : Nat) (groups : List (Operator × List Condition)) :
    (takeGroups n groups).map Prod.fst = groups.map Prod.fst := by
  induction groups generalizing n with
  | nil => rfl
  | cons group rest ih => exact congrArg (group.1 :: ·) (ih _)

private theorem conditions_takeGroups (n : Nat) (groups : List (Operator × List Condition)) :
    ((takeGroups n groups).flatMap fun (op, cs) => cs.map fun c => (op, c)).filter (fun (_, c) => c.operand.isEffective) =
      ((groups.flatMap fun (op, cs) => cs.map fun c => (op, c)).filter fun (_, c) => c.operand.isEffective).take n := by
  induction groups generalizing n with
  | nil => exact List.take_nil.symm
  | cons group rest ih =>
    obtain ⟨op, cs⟩ := group
    have hgroup (cs : List Condition) : (cs.map fun c => (op, c)).filter (fun (_, c) => c.operand.isEffective) =
        (cs.filter fun c => c.operand.isEffective).map fun c => (op, c) := List.filter_map
    have htaken : ((cs.filter fun c => c.operand.isEffective).take n).filter (fun c => c.operand.isEffective) =
        (cs.filter fun c => c.operand.isEffective).take n := by
      refine List.filter_eq_self.2 fun c hc => ?_
      exact (List.mem_filter.1 (List.mem_of_mem_take hc)).2
    rw [takeGroups, List.flatMap_cons, List.flatMap_cons, List.filter_append, List.filter_append, List.take_append, ih]
    simp only [hgroup, htaken, List.length_map]
    rw [List.map_take]

/-- The branch with the first conditions that ask for something, and no other ones. -/
def take (n : Nat) (b : Branch) : Branch where
  groups :=
    { entries := takeGroups n b.groups.entries
      nodup := by
        rw [map_fst_takeGroups]
        exact b.groups.nodup }

theorem conditions_take (n : Nat) (b : Branch) : (b.take n).conditions = b.conditions.take n :=
  conditions_takeGroups n b.groups.entries

end Branch

namespace Condition

/-- The error about a condition that does not fit an applied operator. -/
def rejection (properties : PropertyMap) (op : Operator) (c : Condition) : CriteriaError :=
  if (properties.get? c.property).isSome then .operandMismatch op c.property else .unmappedProperty c.property

theorem predicate_of_not_fits {properties : PropertyMap} {op : Operator} {c : Condition} (h : ¬c.Fits properties op)
    (clause : Clause) :
    c.predicate properties (clause.applied op) = .error (c.rejection properties (clause.applied op)) := by
  unfold Fits at h
  unfold predicate rejection PropertyMap.column
  cases hcolumn : properties.get? c.property with
  | none => rfl
  | some column =>
    have hop : ¬(clause.applied op).Accepts c.operand := by
      intro haccepts
      refine h ⟨by rw [hcolumn]; rfl, ?_⟩
      unfold Clause.applied at haccepts
      split at haccepts
      · exact Operator.accepts_complement.1 haccepts
      · exact haccepts
    have hnone : (clause.applied op).predicate? column c.operand = none := by
      rw [← Option.not_isSome_iff_eq_none, Operator.predicate?_isSome]
      exact hop
    simp only [hnone, Option.isSome_some, if_true]

end Condition

namespace Filter

variable {properties : PropertyMap}

/-- The filter with the first conditions that ask for something, and no other ones. -/
def take (n : Nat) (f : Filter) : Filter where
  must := f.must.take n
  mustNot := f.mustNot.take (n - f.must.conditions.length)
  should := f.should.take (n - f.must.conditions.length - f.mustNot.conditions.length)

theorem conditions_take (n : Nat) (f : Filter) : (f.take n).conditions = f.conditions.take n := by
  simp [conditions, Clause.all, branch, take, Branch.conditions_take, List.take_append, List.map_take]

/-! ### The first condition that does not fit -/

section Conditions

variable {before after : List (Clause × Operator × Condition)} {x : Clause × Operator × Condition}

/-- Either all conditions fit, or there is a first one that does not. -/
private theorem fits_or_exists_first (cs : List (Clause × Operator × Condition)) :
    (∀ x ∈ cs, x.2.2.Fits properties x.2.1) ∨
      ∃ before x after, cs = before ++ x :: after ∧ (∀ y ∈ before, y.2.2.Fits properties y.2.1) ∧
        ¬x.2.2.Fits properties x.2.1 := by
  induction cs with
  | nil => exact .inl (List.forall_mem_nil _)
  | cons y rest ih =>
    by_cases hy : y.2.2.Fits properties y.2.1
    · obtain hrest | ⟨before, x, after, rfl, hbefore, hx⟩ := ih
      · exact .inl (List.forall_mem_cons.2 ⟨hy, hrest⟩)
      · exact .inr ⟨y :: before, x, after, rfl, List.forall_mem_cons.2 ⟨hy, hbefore⟩, hx⟩
    · exact .inr ⟨[], y, rest, rfl, List.forall_mem_nil _, hy⟩

private theorem mapM_translate_of_not_fits (hbefore : ∀ y ∈ before, y.2.2.Fits properties y.2.1)
    (hx : ¬x.2.2.Fits properties x.2.1) :
    (before ++ x :: after).mapM (translate properties) = .error (x.2.2.rejection properties (x.1.applied x.2.1)) := by
  induction before with
  | nil =>
    have herror := translate_eq_error.2 (Condition.predicate_of_not_fits hx x.1)
    rw [List.nil_append, List.mapM_cons, herror]
    rfl
  | cons y before ih =>
    obtain ⟨hy, hrest⟩ := List.forall_mem_cons.1 hbefore
    obtain ⟨q, hq⟩ := exists_translate hy
    rw [List.cons_append, List.mapM_cons, hq, ih hrest]
    rfl

private theorem reached_of_not_fits (hbefore : ∀ y ∈ before, y.2.2.Fits properties y.2.1)
    (hx : ¬x.2.2.Fits properties x.2.1) :
    reached properties (before ++ x :: after) = reached properties before := by
  induction before with
  | nil =>
    have herror := translate_eq_error.2 (Condition.predicate_of_not_fits hx x.1)
    simp only [List.nil_append, reached, herror]
  | cons y before ih =>
    obtain ⟨hy, hrest⟩ := List.forall_mem_cons.1 hbefore
    obtain ⟨q, hq⟩ := exists_translate hy
    simp only [List.cons_append, reached, hq, ih hrest]

end Conditions

private theorem compile_of_not_fits {f : Filter} {before after : List (Clause × Operator × Condition)}
    {x : Clause × Operator × Condition} (hf : f.conditions = before ++ x :: after)
    (hbefore : ∀ y ∈ before, y.2.2.Fits properties y.2.1) (hx : ¬x.2.2.Fits properties x.2.1) (b : Bindings) :
    f.compile properties b = (.error (x.2.2.rejection properties (x.1.applied x.2.1)),
      b.recordEach (boundBy (reached properties before))) := by
  have herror : f.conditions.mapM (translate properties) =
      .error (x.2.2.rejection properties (x.1.applied x.2.1)) := by
    rw [hf]
    exact mapM_translate_of_not_fits hbefore hx
  obtain ⟨b', hb'⟩ := compile_of_error herror b
  have hsnd : (f.compile properties b).2 = _ := compile_snd f b
  rw [hf, reached_of_not_fits hbefore hx] at hsnd
  rw [← hsnd, hb']

private theorem compile_of_fits {g : Filter} (h : ∀ y ∈ g.conditions, y.2.2.Fits properties y.2.1) (b : Bindings) :
    ∃ w, g.compile properties b = (.ok w, b.recordEach (boundBy (reached properties g.conditions))) := by
  obtain ⟨ps, hps, -⟩ := exists_mapM_translate h
  have hcompile := compile_of_ok hps b
  have hsnd : (g.compile properties b).2 = _ := compile_snd g b
  rw [hcompile] at hsnd
  exact ⟨_, by rw [hcompile, ← hsnd]⟩

/-- A condition comes of a filter only when it asks for nothing. -/
theorem compile_eq_none {f : Filter} {b : Bindings} : (f.compile properties b).1 = .ok none ↔ f.isEmpty := by
  rw [isEmpty, List.isEmpty_iff]
  constructor
  · intro h
    obtain ⟨ps, hps, hnone, -⟩ := exists_of_compile_ok (Prod.ext h rfl : f.compile properties b = (.ok none, _))
    obtain rfl := eq_nil_of_combine_eq_none hnone.symm
    cases hf : f.conditions with
    | nil => rfl
    | cons x rest =>
      rw [hf] at hps
      obtain ⟨q, qs, -, -, hcons⟩ := exists_of_mapM_cons_ok hps
      cases hcons
  · intro h
    simp only [compile, h, predicates]
    rfl

/-- What compiling a filter comes to: everything fits, or there is a first condition that does not. -/
theorem compile_cases (properties : PropertyMap) (f : Filter) (b : Bindings) :
    ((∀ x ∈ f.conditions, x.2.2.Fits properties x.2.1) ∧ ∃ w b', f.compile properties b = (.ok w, b')) ∨
      ∃ before clause op c after, f.conditions = before ++ (clause, op, c) :: after ∧
        (∀ x ∈ before, x.2.2.Fits properties x.2.1) ∧ ¬c.Fits properties op ∧
        f.compile properties b =
          (.error (c.rejection properties (clause.applied op)), b.recordEach (boundBy (reached properties before))) := by
  obtain hall | ⟨before, ⟨clause, op, c⟩, after, hf, hbefore, hc⟩ :=
    fits_or_exists_first f.conditions
  · obtain ⟨w, hw⟩ := compile_of_fits hall b
    exact .inl ⟨hall, w, _, hw⟩
  · exact .inr ⟨before, clause, op, c, after, hf, hbefore, hc, compile_of_not_fits hf hbefore hc b⟩

private theorem exists_error_iff (properties : PropertyMap) (f : Filter) (b : Bindings) :
    (∃ e, (f.compile properties b).1 = .error e) ↔
      ∃ clause op, ∃ c ∈ (f.branch clause).get op, c.operand.isEffective ∧ ¬c.Fits properties op := by
  have hmem {clause : Clause} {op : Operator} {c : Condition} :
      (clause, op, c) ∈ f.conditions ↔ c ∈ (f.branch clause).get op ∧ c.operand.isEffective :=
    mem_conditions.trans Branch.mem_conditions
  constructor
  · rintro ⟨e, he⟩
    obtain ⟨-, w, b', hok⟩ | ⟨before, clause, op, c, after, hf, -, hc, -⟩ := compile_cases properties f b
    · rw [hok] at he
      cases he
    · have hfirst : (clause, op, c) ∈ f.conditions := by
        rw [hf]
        exact List.mem_append_right _ List.mem_cons_self
      obtain ⟨hget, heffective⟩ := hmem.1 hfirst
      exact ⟨clause, op, c, hget, heffective, hc⟩
  · rintro ⟨clause, op, c, hget, heffective, hc⟩
    obtain ⟨hall, -⟩ | ⟨_, _, _, _, _, _, _, _, herror⟩ := compile_cases properties f b
    · exact absurd (hall _ (hmem.2 ⟨hget, heffective⟩)) hc
    · exact ⟨_, congrArg Prod.fst herror⟩

/-- A pass that is asked for a rejected filter binds what a filter of the conditions before the first that does not fit
binds. -/
private theorem answer_rejected {f g : Filter} {p : Pass} {x : Clause × Operator × Condition}
    {after : List (Clause × Operator × Condition)} (hf : f.conditions = g.conditions ++ x :: after)
    (hbefore : ∀ y ∈ g.conditions, y.2.2.Fits p.properties y.2.1) (hx : ¬x.2.2.Fits p.properties x.2.1) :
    p.answer (.filter f) = (.error (x.2.2.rejection p.properties (x.1.applied x.2.1)), (p.answer (.filter g)).2) := by
  -- a pass counts what is bound before the first condition that does not fit, and nothing behind it
  have hbound : Pass.Call.bound p.properties (.filter f) = Pass.Call.bound p.properties (.filter g) := by
    show boundBy (reached p.properties f.conditions) = boundBy (reached p.properties g.conditions)
    rw [hf, reached_of_not_fits hbefore hx]
  rw [Pass.answer_filter f p {}, Pass.answer_filter g p {}, compile_of_not_fits hf hbefore hx, hbound]
  rfl

/-- A filter is rejected exactly when a condition that asks for something does not fit; conditions that ask for nothing may
name any property. The error is about the first condition that does not fit, in the order of compilation. What is bound
then, on its own or in a pass with any number of earlier names, is what a filter of just the conditions before it binds,
and there is such a filter. Only a filter without conditions that ask for something asks for nothing. -/
theorem compile_rejects (properties : PropertyMap) (f : Filter) (b : Bindings) :
    ((∃ e, (f.compile properties b).1 = .error e) ↔
        ∃ clause op, ∃ c ∈ (f.branch clause).get op, c.operand.isEffective ∧ ¬c.Fits properties op) ∧
      (∀ e b', f.compile properties b = (.error e, b') →
        ∃ before clause op c after, f.conditions = before ++ (clause, op, c) :: after ∧
          (∀ x ∈ before, x.2.2.Fits properties x.2.1) ∧ ¬c.Fits properties op ∧
          e = c.rejection properties (clause.applied op) ∧
          (∃ appended, b'.entries = b.entries ++ appended) ∧
          (∃ g : Filter, g.conditions = before) ∧
          ∀ g : Filter, g.conditions = before →
            (∃ w, g.compile properties b = (.ok w, b')) ∧
              ∀ p : Pass, p.properties = properties →
                p.answer (.filter f) = (.error e, (p.answer (.filter g)).2)) ∧
      ((f.compile properties b).1 = .ok none ↔ f.isEmpty) := by
  refine ⟨exists_error_iff properties f b, ?_, compile_eq_none⟩
  intro e b' h
  obtain ⟨-, w, _, hok⟩ | ⟨before, clause, op, c, after, hf, hbefore, hc, herror⟩ := compile_cases properties f b
  · rw [hok] at h
    cases h
  · rw [herror] at h
    obtain ⟨he, rfl⟩ := Prod.mk.inj h
    obtain rfl := Except.error.inj he
    refine ⟨before, clause, op, c, after, hf, hbefore, hc, rfl, ⟨_, Bindings.entries_recordEach b _⟩,
      ⟨f.take before.length, ?_⟩, ?_⟩
    · rw [conditions_take, hf, List.take_left]
    · rintro g rfl
      refine ⟨compile_of_fits hbefore b, ?_⟩
      rintro p rfl
      exact answer_rejected hf hbefore hc

/-- A condition on a property without column asks for nothing; the next one is bound; the complement of `contains` looks for
nothing and is rejected, before the alternative on a property without column. -/
example :
    let f : Filter := {
      must := ⟨OrderedMap.ofList [(.group, [⟨"nobody", .set []⟩]), (.equals, [⟨"name", .scalar (.text "Ken")⟩])]⟩
      mustNot := ⟨OrderedMap.ofList [(.contains, [⟨"name", .scalar .null⟩])]⟩
      should := ⟨OrderedMap.ofList [(.equals, [⟨"nobody", .scalar .null⟩])]⟩ }
    f.compile (OrderedMap.ofList [("name", "customer_name")]) {} =
      (.error (.operandMismatch .notContains "name"), ⟨[⟨":kap1", .text "Ken"⟩]⟩) :=
  rfl

end Filter

end CriteriaStore
