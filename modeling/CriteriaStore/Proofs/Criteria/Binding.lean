import CriteriaStore.Proofs.Sql.Placeholders
import CriteriaStore.Sql.Compiling

/-!
# What a filter binds

Compiling a filter has two results, a condition and the values reported as bound. Both come from the predicates that
the conditions are translated to one by one (`translate`).

* The condition does not depend on what was bound before, and the values are named in the order of the conditions
  (`compile_of_ok`).
* Since alternatives are compiled last, this is also the order in which the condition binds them
  (`parameters_combine`).
* It makes no difference whether the values are read off a predicate or named while it is put together, each one
  once for the report and once for the predicate (`transcribe_eq`).
-/

namespace CriteriaStore

open Sql (Where Predicate Term)

/-! ### Naming many values -/

namespace Bindings

/-- Values with their names, the first of them having a given number. -/
def numbered (n : Nat) (xs : List (Clause × Scalar)) : List Binding := xs.mapIdx fun i x => ⟨name x.1 (n + i), x.2⟩

theorem numbered_cons (n : Nat) (x : Clause × Scalar) (xs : List (Clause × Scalar)) :
    numbered n (x :: xs) = ⟨name x.1 n, x.2⟩ :: numbered (n + 1) xs := by
  simp [numbered, List.mapIdx_cons, Nat.add_assoc, Nat.add_comm 1]

@[simp] theorem numbered_values (n : Nat) (xs : List (Clause × Scalar)) :
    (numbered n xs).map Binding.value = xs.map Prod.snd := by
  induction xs generalizing n with
  | nil => rfl
  | cons x xs ih => rw [numbered_cons, List.map_cons, List.map_cons, ih]

/-- Name values that belong to different clauses. -/
def recordEach (b : Bindings) (xs : List (Clause × Scalar)) : Bindings := xs.foldl (fun b x => b.record x.1 x.2) b

theorem recordEach_append (b : Bindings) (xs ys : List (Clause × Scalar)) :
    b.recordEach (xs ++ ys) = (b.recordEach xs).recordEach ys :=
  List.foldl_append

theorem recordAll_eq (clause : Clause) (b : Bindings) (vs : List Scalar) :
    b.recordAll clause vs = b.recordEach (vs.map (clause, ·)) := by
  unfold recordAll recordEach
  rw [List.foldl_map]

theorem recordAll_append (clause : Clause) (b : Bindings) (vs ws : List Scalar) :
    b.recordAll clause (vs ++ ws) = (b.recordAll clause vs).recordAll clause ws :=
  List.foldl_append

/-- Values are numbered on from those before them. -/
theorem entries_recordEach (b : Bindings) (xs : List (Clause × Scalar)) :
    (b.recordEach xs).entries = b.entries ++ numbered (b.entries.length + 1) xs := by
  induction xs generalizing b with
  | nil => simp [numbered, recordEach]
  | cons x xs ih =>
    show ((b.record x.1 x.2).recordEach xs).entries = _
    rw [ih, numbered_cons]
    simp [record]

end Bindings

/-! ### The values of a predicate -/

/-- A term binds no nothing and no truth value. -/
theorem Sql.Term.storable_of_ofScalar {v w : Scalar} (h : w ∈ (Term.ofScalar v).parameters) :
    w ≠ .null ∧ ∀ x, w ≠ .bool x := by
  cases v <;> simp_all [Term.ofScalar, Scalar.parameter, Term.parameters]

/-- What a predicate binds is a pattern, or the term of a scalar binds it. -/
private theorem Operator.mem_parameters_of_predicate? {op : Operator} {column : String} {operand : Operand}
    {p : Predicate} (h : op.predicate? column operand = some p) {w : Scalar} (hw : w ∈ p.parameters) :
    (∃ s, w = .text s) ∨ ∃ v, w ∈ (Term.ofScalar v).parameters := by
  cases operand with
  | none =>
    cases op
    case empty | notEmpty =>
      obtain rfl := Option.some.inj h
      exact Or.inl ⟨"", List.mem_singleton.1 hw⟩
    all_goals simp [predicate?] at h
  | pair low high =>
    cases op
    case range | notRange =>
      obtain rfl := Option.some.inj h
      obtain hlow | hhigh := List.mem_append.1 hw
      · exact Or.inr ⟨low, hlow⟩
      · exact Or.inr ⟨high, hhigh⟩
    all_goals simp [predicate?] at h
  | set values =>
    cases op
    case group | notGroup =>
      obtain rfl := Option.some.inj h
      simp only [Predicate.parameters, List.flatMap_map, List.mem_flatMap] at hw
      obtain ⟨v, -, hv⟩ := hw
      exact Or.inr ⟨v, hv⟩
    all_goals simp [predicate?] at h
  | scalar v =>
    cases op
    case range | notRange | group | notGroup | empty | notEmpty => simp [predicate?] at h
    case contains | notContains | startsWith | notStarts | endsWith | notEnds =>
      cases v <;> simp only [predicate?, matching?, Option.some.injEq, reduceCtorEq] at h <;> subst h <;>
        exact Or.inl ⟨_, List.mem_singleton.1 hw⟩
    -- equality with nothing binds no value at all
    all_goals
      cases v <;> obtain rfl := Option.some.inj h <;> simp only [Predicate.parameters, List.not_mem_nil] at hw <;>
        exact Or.inr ⟨_, hw⟩

/-- A predicate binds no nothing and no truth value, whatever its operand is. -/
theorem Operator.storable_of_predicate? {op : Operator} {column : String} {operand : Operand} {p : Predicate}
    (h : op.predicate? column operand = some p) {w : Scalar} (hw : w ∈ p.parameters) :
    w ≠ .null ∧ ∀ x, w ≠ .bool x := by
  obtain ⟨s, rfl⟩ | ⟨v, hv⟩ := mem_parameters_of_predicate? h hw
  · simp
  · exact Term.storable_of_ofScalar hv

/-! ### Condition by condition -/

section Traversal

variable {α β ε : Type} {f : α → Except ε β} {x : α} {xs : List α}

theorem exists_of_mapM_cons_ok {ys : List β} (h : (x :: xs).mapM f = .ok ys) :
    ∃ y rest, f x = .ok y ∧ xs.mapM f = .ok rest ∧ ys = y :: rest := by
  rw [List.mapM_cons] at h
  cases hx : f x with
  | error e => simp [hx, bind, Except.bind] at h
  | ok y =>
    cases hxs : xs.mapM f with
    | error e => simp [hx, hxs, bind, Except.bind] at h
    | ok rest =>
      have hys : y :: rest = ys := by simpa [hx, hxs, bind, Except.bind, pure, Except.pure] using h
      exact ⟨y, rest, rfl, rfl, hys.symm⟩

theorem error_of_mapM_cons_error {e : ε} (h : (x :: xs).mapM f = .error e) :
    f x = .error e ∨ ∃ y, f x = .ok y ∧ xs.mapM f = .error e := by
  rw [List.mapM_cons] at h
  cases hx : f x with
  | error e' => exact Or.inl (by simpa [hx, bind, Except.bind] using h)
  | ok y =>
    cases hxs : xs.mapM f with
    | error e' => exact Or.inr ⟨y, rfl, by simpa [hx, hxs, bind, Except.bind] using h⟩
    | ok rest => simp [hx, hxs, bind, Except.bind, pure, Except.pure] at h

theorem exists_of_mem_mapM_ok {ys : List β} (h : xs.mapM f = .ok ys) {y : β} (hy : y ∈ ys) :
    ∃ x ∈ xs, f x = .ok y := by
  induction xs generalizing ys with
  | nil =>
    obtain rfl : [] = ys := Except.ok.inj h
    cases hy
  | cons x xs ih =>
    obtain ⟨y', rest, hx, hxs, rfl⟩ := exists_of_mapM_cons_ok h
    obtain rfl | hmem := List.mem_cons.1 hy
    · exact ⟨x, List.mem_cons_self, hx⟩
    · obtain ⟨x', hx', hy'⟩ := ih hxs hmem
      exact ⟨x', List.mem_cons_of_mem _ hx', hy'⟩

end Traversal

/-- A condition is compiled when its property has a column and its operand fits the operator. -/
theorem Condition.predicate_eq_ok {properties : PropertyMap} {op : Operator} {c : Condition} {p : Predicate} :
    c.predicate properties op = .ok p ↔
      ∃ column, properties.column c.property = .ok column ∧ op.predicate? column c.operand = some p := by
  unfold Condition.predicate
  cases properties.column c.property with
  | error e => simp
  | ok column => cases hp : op.predicate? column c.operand <;> simp [hp]

namespace Filter

variable {properties : PropertyMap}

/-- The predicate that a condition of a filter is compiled to, with its clause. -/
def translate (properties : PropertyMap) (x : Clause × Operator × Condition) :
    Except CriteriaError (Clause × Predicate) :=
  (x.2.2.predicate properties (x.1.applied x.2.1)).map (x.1, ·)

theorem translate_eq_ok {x : Clause × Operator × Condition} {q : Clause × Predicate} :
    translate properties x = .ok q ↔
      q.1 = x.1 ∧ x.2.2.predicate properties (x.1.applied x.2.1) = .ok q.2 := by
  obtain ⟨clause, p⟩ := q
  unfold translate
  cases x.2.2.predicate properties (x.1.applied x.2.1) with
  | error e => simp [Except.map]
  | ok p' => simp [Except.map, eq_comm]

theorem translate_eq_error {x : Clause × Operator × Condition} {e : CriteriaError} :
    translate properties x = .error e ↔ x.2.2.predicate properties (x.1.applied x.2.1) = .error e := by
  unfold translate
  cases x.2.2.predicate properties (x.1.applied x.2.1) <;> simp [Except.map]

/-- The values of classified predicates, each with its clause. -/
def boundBy (ps : List (Clause × Predicate)) : List (Clause × Scalar) :=
  ps.flatMap fun p => p.2.parameters.map (p.1, ·)

theorem boundBy_values (ps : List (Clause × Predicate)) :
    (boundBy ps).map Prod.snd = ps.flatMap fun p => p.2.parameters := by
  simp [boundBy, List.map_flatMap, Function.comp_def]

private theorem predicates_of_ok {cs : List (Clause × Operator × Condition)} {ps : List (Clause × Predicate)}
    (h : cs.mapM (translate properties) = .ok ps) (b : Bindings) :
    predicates properties cs b = (.ok ps, b.recordEach (boundBy ps)) := by
  induction cs generalizing ps b with
  | nil =>
    obtain rfl : [] = ps := Except.ok.inj h
    rfl
  | cons x cs ih =>
    obtain ⟨⟨clause, p⟩, qs, hx, hcs, rfl⟩ := exists_of_mapM_cons_ok h
    obtain ⟨rfl, hp⟩ := translate_eq_ok.1 hx
    have hvalues : b.recordEach (boundBy ((x.1, p) :: qs)) =
        (b.recordAll x.1 p.parameters).recordEach (boundBy qs) := by
      rw [Bindings.recordAll_eq, ← Bindings.recordEach_append]
      rfl
    rw [hvalues]
    simp only [predicates, hp, ih hcs]

private theorem predicates_of_error {cs : List (Clause × Operator × Condition)} {e : CriteriaError}
    (h : cs.mapM (translate properties) = .error e) (b : Bindings) :
    ∃ b', predicates properties cs b = (.error e, b') := by
  induction cs generalizing b with
  | nil => cases h
  | cons x cs ih =>
    rcases error_of_mapM_cons_error h with hx | ⟨q, hx, hcs⟩
    · have hp := translate_eq_error.1 hx
      exact ⟨b, by simp only [predicates, hp]⟩
    · have hp := (translate_eq_ok.1 hx).2
      obtain ⟨b', hb'⟩ := ih hcs (b.recordAll x.1 q.2.parameters)
      exact ⟨b', by simp only [predicates, hp, hb']⟩

/-- When every condition is translated, a filter is compiled to the condition of the predicates, and their values are
named one after another. -/
theorem compile_of_ok {f : Filter} {ps : List (Clause × Predicate)}
    (h : f.conditions.mapM (translate properties) = .ok ps) (b : Bindings) :
    f.compile properties b = (.ok (combine ps), b.recordEach (boundBy ps)) := by
  simp only [compile, predicates_of_ok h]

/-- A filter fails with the first condition that is not translated. -/
theorem compile_of_error {f : Filter} {e : CriteriaError} (h : f.conditions.mapM (translate properties) = .error e)
    (b : Bindings) : ∃ b', f.compile properties b = (.error e, b') := by
  obtain ⟨b', hb'⟩ := predicates_of_error h b
  exact ⟨b', by simp only [compile, hb']⟩

theorem exists_of_compile_ok {f : Filter} {b b' : Bindings} {condition : Option Where}
    (h : f.compile properties b = (.ok condition, b')) :
    ∃ ps, f.conditions.mapM (translate properties) = .ok ps ∧ condition = combine ps ∧
      b' = b.recordEach (boundBy ps) := by
  cases hps : f.conditions.mapM (translate properties) with
  | error e =>
    obtain ⟨b'', hb''⟩ := compile_of_error hps b
    rw [hb''] at h
    cases h
  | ok ps =>
    rw [compile_of_ok hps] at h
    cases h
    exact ⟨ps, rfl, rfl, rfl⟩

/-- What a filter is compiled to does not depend on what was bound before. -/
theorem compile_fst (f : Filter) (b b' : Bindings) : (f.compile properties b).1 = (f.compile properties b').1 := by
  cases hps : f.conditions.mapM (translate properties) with
  | error e =>
    obtain ⟨c, hc⟩ := compile_of_error hps b
    obtain ⟨c', hc'⟩ := compile_of_error hps b'
    rw [hc, hc']
  | ok ps => rw [compile_of_ok hps, compile_of_ok hps]

private theorem storable_of_translated {cs : List (Clause × Operator × Condition)} {ps : List (Clause × Predicate)}
    (h : cs.mapM (translate properties) = .ok ps) {p : Clause × Predicate} (hp : p ∈ ps) {w : Scalar}
    (hw : w ∈ p.2.parameters) : w ≠ .null ∧ ∀ x, w ≠ .bool x := by
  obtain ⟨x, -, hx⟩ := exists_of_mem_mapM_ok h hp
  obtain ⟨column, -, hpredicate⟩ := Condition.predicate_eq_ok.1 (translate_eq_ok.1 hx).2
  exact Operator.storable_of_predicate? hpredicate hw

/-! ### The order of a condition -/

/-- Conditions stand in order when no condition that is required comes after an alternative. -/
private def Ordered (clauses : List Clause) : Prop :=
  clauses.Pairwise fun c c' => c.isDisjunctive → c'.isDisjunctive

private theorem ordered_conditions (f : Filter) : Ordered (f.conditions.map Prod.fst) := by
  have hclauses : f.conditions.map Prod.fst = List.replicate f.must.conditions.length .must ++
      (List.replicate f.mustNot.conditions.length .mustNot ++ List.replicate f.should.conditions.length .should) := by
    simp [conditions, Clause.all, Function.comp_def, branch, List.map_const']
  rw [hclauses]
  unfold Ordered
  rw [List.pairwise_append, List.pairwise_append]
  simp only [List.pairwise_replicate, List.mem_append, List.mem_replicate]
  refine ⟨by simp, ⟨by simp, by simp, ?_⟩, ?_⟩
  · rintro c ⟨-, rfl⟩ c' - hd
    simp [Clause.isDisjunctive] at hd
  · rintro c ⟨-, rfl⟩ c' - hd
    simp [Clause.isDisjunctive] at hd

private theorem clauses_of_translated {cs : List (Clause × Operator × Condition)} {ps : List (Clause × Predicate)}
    (h : cs.mapM (translate properties) = .ok ps) : ps.map Prod.fst = cs.map Prod.fst := by
  induction cs generalizing ps with
  | nil =>
    obtain rfl : [] = ps := Except.ok.inj h
    rfl
  | cons x cs ih =>
    obtain ⟨q, qs, hx, hcs, rfl⟩ := exists_of_mapM_cons_ok h
    rw [List.map_cons, List.map_cons, (translate_eq_ok.1 hx).1, ih hcs]

private theorem required_append_alternatives {ps : List (Clause × Predicate)} (h : Ordered (ps.map Prod.fst)) :
    (ps.filter fun p => !p.1.isDisjunctive) ++ (ps.filter fun p => p.1.isDisjunctive) = ps := by
  induction ps with
  | nil => rfl
  | cons p ps ih =>
    obtain ⟨hp, hps⟩ := List.pairwise_cons.1 h
    cases hd : p.1.isDisjunctive with
    | false => simp [hd, ih hps]
    | true =>
      have hall : ∀ q ∈ ps, q.1.isDisjunctive := fun q hq => hp q.1 (List.mem_map_of_mem hq) hd
      have hnone : ps.filter (fun q => !q.1.isDisjunctive) = [] := List.filter_eq_nil_iff.2 fun q hq => by
        simp [hall q hq]
      have hsame : ps.filter (fun q => q.1.isDisjunctive) = ps := List.filter_eq_self.2 hall
      simp [hd, hnone, hsame]

private theorem parameters_of? (ps qs : List Predicate) :
    (Where.of? ps qs).elim [] Where.parameters =
      ps.flatMap Predicate.parameters ++ qs.flatMap Predicate.parameters := by
  cases ps with
  | nil => cases qs <;> rfl
  | cons p ps => rfl

/-- The condition of a filter binds the values of its predicates in the order in which they are compiled. -/
theorem parameters_combine {f : Filter} {ps : List (Clause × Predicate)}
    (h : f.conditions.mapM (translate properties) = .ok ps) :
    (combine ps).elim [] Where.parameters = ps.flatMap fun p => p.2.parameters := by
  have hordered : Ordered (ps.map Prod.fst) := by
    rw [clauses_of_translated h]
    exact ordered_conditions f
  unfold combine
  rw [parameters_of?, List.flatMap_map, List.flatMap_map, ← List.flatMap_append,
    required_append_alternatives hordered]

private theorem of?_eq_none {ps qs : List Predicate} (h : Where.of? ps qs = none) : ps = [] ∧ qs = [] := by
  cases ps with
  | nil =>
    cases qs with
    | nil => exact ⟨rfl, rfl⟩
    | cons q qs => cases h
  | cons p ps => cases h

/-- Predicates always make a condition. -/
theorem eq_nil_of_combine_eq_none {ps : List (Clause × Predicate)} (h : combine ps = none) : ps = [] := by
  obtain ⟨hrequired, halternatives⟩ := of?_eq_none h
  rw [List.map_eq_nil_iff, List.filter_eq_nil_iff] at hrequired halternatives
  refine List.eq_nil_iff_forall_not_mem.2 fun p hp => ?_
  have hand := hrequired p hp
  have hor := halternatives p hp
  simp_all

end Filter

/-! ### Naming values on the way -/

namespace Bindings

/-- Bind one value: name the form in which it is stored, and give the term for it. Nothing is not named. -/
def bind (clause : Clause) (v : Scalar) : StateM Bindings Term :=
  match v.parameter with
  | .null => return .null
  | w => do
    modify (record clause · w)
    return .bound w

/-- Bind the pattern of a value; the predicate gets the pattern itself, and not the term that binds it. -/
def bindPattern (clause : Clause) (a : Anchor) (v : Scalar) : StateM Bindings String := do
  let _ ← bind clause (.text (a.pattern v))
  return a.pattern v

theorem bind_eq (clause : Clause) (v : Scalar) (b : Bindings) :
    bind clause v b = (.ofScalar v, b.recordAll clause (Term.ofScalar v).parameters) := by
  cases v <;> rfl

theorem mapM_bind_eq (clause : Clause) (vs : List Scalar) (b : Bindings) :
    vs.mapM (bind clause) b =
      (vs.map .ofScalar, b.recordAll clause (vs.flatMap fun v => (Term.ofScalar v).parameters)) := by
  induction vs generalizing b with
  | nil => rfl
  | cons v vs ih =>
    have hcons : (v :: vs).mapM (bind clause) b =
        ((bind clause v b).1 :: (vs.mapM (bind clause) (bind clause v b).2).1,
          (vs.mapM (bind clause) (bind clause v b).2).2) := by
      rw [List.mapM_cons]
      rfl
    rw [hcons, bind_eq, ih, List.flatMap_cons, recordAll_append]
    rfl

end Bindings

/-- The predicate of an applied operator, the values of its operand named while it is put together. -/
def Operator.emit (clause : Clause) (op : Operator) (column : String) (operand : Operand) :
    StateM Bindings (Option Predicate) :=
  match op, operand with
  | equals, .scalar .null => return some (.isNull column)
  | notEqual, .scalar .null => return some (.isNotNull column)
  | equals, .scalar v => return some (.compare column .eq (← Bindings.bind clause v))
  | notEqual, .scalar v => return some (.compare column .ne (← Bindings.bind clause v))
  | greaterThan, .scalar v => return some (.compare column .gt (← Bindings.bind clause v))
  | greaterThanOrEqual, .scalar v => return some (.compare column .ge (← Bindings.bind clause v))
  | lessThan, .scalar v => return some (.compare column .lt (← Bindings.bind clause v))
  | lessThanOrEqual, .scalar v => return some (.compare column .le (← Bindings.bind clause v))
  | contains, .scalar .null | notContains, .scalar .null | startsWith, .scalar .null | notStarts, .scalar .null
  | endsWith, .scalar .null | notEnds, .scalar .null => return none
  | contains, .scalar v => return some (.like column false (← Bindings.bindPattern clause .anywhere v))
  | notContains, .scalar v => return some (.like column true (← Bindings.bindPattern clause .anywhere v))
  | startsWith, .scalar v => return some (.like column false (← Bindings.bindPattern clause .start v))
  | notStarts, .scalar v => return some (.like column true (← Bindings.bindPattern clause .start v))
  | endsWith, .scalar v => return some (.like column false (← Bindings.bindPattern clause .finish v))
  | notEnds, .scalar v => return some (.like column true (← Bindings.bindPattern clause .finish v))
  | range, .pair low high => do
    let low ← Bindings.bind clause low
    let high ← Bindings.bind clause high
    return some (.between column false low high)
  | notRange, .pair low high => do
    let low ← Bindings.bind clause low
    let high ← Bindings.bind clause high
    return some (.between column true low high)
  | group, .set vs => return some (.isIn column false (← vs.mapM (Bindings.bind clause)))
  | notGroup, .set vs => return some (.isIn column true (← vs.mapM (Bindings.bind clause)))
  | empty, .none => return some (.compare column .eq (← Bindings.bind clause (.text "")))
  | notEmpty, .none => return some (.compare column .ne (← Bindings.bind clause (.text "")))
  | _, _ => return none

/-- What is named while a predicate is put together are the values that it binds. -/
theorem Operator.emit_eq (clause : Clause) (op : Operator) (column : String) (operand : Operand) (b : Bindings) :
    op.emit clause column operand b = (op.predicate? column operand,
      b.recordAll clause ((op.predicate? column operand).elim [] Predicate.parameters)) := by
  cases operand with
  | none => cases op <;> rfl
  | pair low high =>
    cases op
    case range | notRange =>
      show (some (Predicate.between column _ (Bindings.bind clause low b).1
          (Bindings.bind clause high (Bindings.bind clause low b).2).1),
        (Bindings.bind clause high (Bindings.bind clause low b).2).2) = _
      rw [Bindings.bind_eq, Bindings.bind_eq, ← Bindings.recordAll_append]
      rfl
    all_goals rfl
  | set values =>
    cases op
    case group | notGroup =>
      show (some (Predicate.isIn column _ (values.mapM (Bindings.bind clause) b).1),
        (values.mapM (Bindings.bind clause) b).2) = _
      rw [Bindings.mapM_bind_eq, ← List.flatMap_map]
      rfl
    all_goals rfl
  | scalar v => cases op <;> cases v <;> rfl

namespace Filter

/-- The predicate of a condition, its values named while it is put together. -/
def emit (properties : PropertyMap) (x : Clause × Operator × Condition) :
    ExceptT CriteriaError (StateM Bindings) Predicate := do
  let column ← PropertyMap.column properties x.2.2.property
  match ← (x.1.applied x.2.1).emit x.1 column x.2.2.operand with
  | some p => return p
  | none => throw (.operandMismatch (x.1.applied x.2.1) x.2.2.property)

/-- Put the predicate of a condition together, and add it to the required ones or to the alternatives. -/
def extend (properties : PropertyMap) (sides : List Predicate × List Predicate) (x : Clause × Operator × Condition) :
    ExceptT CriteriaError (StateM Bindings) (List Predicate × List Predicate) := do
  let p ← emit properties x
  return if x.1.isDisjunctive then (sides.1, sides.2 ++ [p]) else (sides.1 ++ [p], sides.2)

/-- The condition of a filter, every value named while the predicate that binds it is put together. -/
def transcribe (properties : PropertyMap) (f : Filter) : ExceptT CriteriaError (StateM Bindings) (Option Where) := do
  let sides ← f.conditions.foldlM (extend properties) ([], [])
  return Where.of? sides.1 sides.2

private theorem run_bind {σ ε α β : Type} (m : ExceptT ε (StateM σ) α) (k : α → ExceptT ε (StateM σ) β) (s : σ) :
    (m >>= k) s = match m s with
      | (.ok a, s') => k a s'
      | (.error e, s') => (.error e, s') := by
  show ExceptT.bindCont k (m s).1 (m s).2 = _
  obtain ⟨r, s'⟩ := m s
  cases r <;> rfl

private theorem run_lift {σ ε α : Type} (m : StateM σ α) (s : σ) :
    (liftM m : ExceptT ε (StateM σ) α) s = (.ok (m s).1, (m s).2) :=
  rfl

variable {properties : PropertyMap}

private theorem emit_eq (x : Clause × Operator × Condition) (b : Bindings) :
    emit properties x b = match x.2.2.predicate properties (x.1.applied x.2.1) with
      | .error e => (.error e, b)
      | .ok p => (.ok p, b.recordAll x.1 p.parameters) := by
  unfold emit Condition.predicate
  cases properties.column x.2.2.property with
  | error e => rfl
  | ok column =>
    rw [run_bind]
    show (_ >>= _ : ExceptT CriteriaError (StateM Bindings) Predicate) b = _
    rw [run_bind, run_lift, Operator.emit_eq]
    cases hp : (x.1.applied x.2.1).predicate? column x.2.2.operand <;> simp only [hp] <;> rfl

/-- A traversal adds predicates in order, and stops with the first condition that has none. -/
private theorem foldlM_extend (cs : List (Clause × Operator × Condition)) (sides : List Predicate × List Predicate)
    (b : Bindings) :
    cs.foldlM (extend properties) sides b = match predicates properties cs b with
      | (.ok ps, b') =>
        (.ok (sides.1 ++ (ps.filter fun p => !p.1.isDisjunctive).map Prod.snd,
          sides.2 ++ (ps.filter fun p => p.1.isDisjunctive).map Prod.snd), b')
      | (.error e, b') => (.error e, b') := by
  induction cs generalizing sides b with
  | nil =>
    show (Except.ok sides, b) = _
    simp [predicates]
  | cons x cs ih =>
    obtain ⟨clause, op, c⟩ := x
    rw [List.foldlM_cons, run_bind]
    unfold extend
    rw [run_bind, emit_eq]
    cases hp : c.predicate properties (clause.applied op) with
    | error e => simp only [predicates, hp]
    | ok p =>
      simp only [predicates, hp]
      show (cs.foldlM (extend properties) _) (b.recordAll clause p.parameters) = _
      -- what was added before stays in front on both sides
      rw [ih]
      rcases predicates properties cs (b.recordAll clause p.parameters) with ⟨e | ps, b'⟩
      · rfl
      · cases hd : clause.isDisjunctive <;> simp [hd]

/-- It makes no difference whether values are named on the way or read off the predicates. -/
theorem transcribe_eq (f : Filter) (b : Bindings) : f.transcribe properties b = f.compile properties b := by
  unfold transcribe compile
  rw [run_bind, foldlM_extend]
  rcases predicates properties f.conditions b with ⟨e | ps, b'⟩ <;> rfl

/-! ### What is reported -/

/-- What a filter reports as bound, on top of what was bound before, is what a selection by its condition binds from
left to right in every dialect: storable values only, and none when there is no condition. -/
theorem compile_binds (properties : PropertyMap) (f : Filter) (b : Bindings) :
    f.transcribe properties b = f.compile properties b ∧
      (∀ w b', f.compile properties b = (.ok (some w), b') →
        ∃ appended, b'.entries = b.entries ++ appended ∧
          (∀ (d : Sql.Dialect) (table : String) (projection : Sql.Projection) (order : List Sql.OrderTerm),
            (Sql.Statement.select { table, projection, condition := some w, order }).bound d =
              appended.map fun e => .value e.value) ∧
          ∀ e ∈ appended, e.value ≠ .null ∧ ∀ x, e.value ≠ .bool x) ∧
      ∀ b', f.compile properties b = (.ok none, b') → b' = b := by
  refine ⟨transcribe_eq f b, fun w b' h => ?_, fun b' h => ?_⟩
  · obtain ⟨ps, hps, hw, rfl⟩ := exists_of_compile_ok h
    let appended := Bindings.numbered (b.entries.length + 1) (boundBy ps)
    have hvalues : appended.map Binding.value = w.parameters := by
      have hcombine := parameters_combine hps
      rw [← hw] at hcombine
      rw [Bindings.numbered_values, boundBy_values]
      exact hcombine.symm
    refine ⟨appended, Bindings.entries_recordEach b _, fun d table projection order => ?_, fun e he => ?_⟩
    · rw [Sql.bound_select]
      simp only [Option.elim, Option.toList, List.map_nil, List.append_nil]
      rw [← hvalues, List.map_map]
      rfl
    · have hmem : e.value ∈ ps.flatMap fun p => p.2.parameters := by
        rw [← boundBy_values, ← Bindings.numbered_values (b.entries.length + 1)]
        exact List.mem_map_of_mem he
      obtain ⟨p, hp, hvalue⟩ := List.mem_flatMap.1 hmem
      exact storable_of_translated hps hp hvalue
  · obtain ⟨ps, -, hw, rfl⟩ := exists_of_compile_ok h
    rw [eq_nil_of_combine_eq_none hw.symm]
    rfl

/-- A pattern, a set with nothing among its values and a pair with a truth value, one in each branch and pushed in
another order, after a value that was bound before. -/
theorem compile_binds_of_branches :
    let properties : PropertyMap := OrderedMap.ofList [("name", "customer_name"), ("orders", "total_orders")]
    let f := ((Filter.empty.push .should .range ⟨"orders", .pair (.bool true) .null⟩).push .must .contains
      ⟨"name", .scalar (.text "100%")⟩).push .mustNot .group ⟨"orders", .set [.int 3, .null, .int 4]⟩
    let appended : List Binding :=
      [⟨":kap2", .text "%100\\%%"⟩, ⟨":kan3", .int 3⟩, ⟨":kan4", .int 4⟩, ⟨":kop5", .int 1⟩]
    ∃ w, f.compile properties ⟨[⟨":kap1", .text "set"⟩]⟩ = (.ok (some w), ⟨⟨":kap1", .text "set"⟩ :: appended⟩) ∧
      ∀ d, (Sql.Statement.select { table := "customers", condition := some w }).bound d =
        appended.map fun e => .value e.value := by
  intro properties f appended
  let w : Where :=
    { required := [.like "customer_name" false "%100\\%%",
        .isIn "total_orders" true [.bound (.int 3), .null, .bound (.int 4)]]
      alternatives := [.between "total_orders" false (.bound (.int 1)) .null]
      nonempty := Or.inl (List.cons_ne_nil _ _) }
  have hcompile : f.compile properties ⟨[⟨":kap1", .text "set"⟩]⟩ =
      (.ok (some w), ⟨⟨":kap1", .text "set"⟩ :: appended⟩) := rfl
  obtain ⟨-, hsome, -⟩ := compile_binds properties f ⟨[⟨":kap1", .text "set"⟩]⟩
  obtain ⟨named, hentries, hbound, -⟩ := hsome w _ hcompile
  obtain rfl : appended = named := (List.cons.inj hentries).2
  exact ⟨w, hcompile, fun d => hbound d "customers" .all []⟩

end Filter

end CriteriaStore
