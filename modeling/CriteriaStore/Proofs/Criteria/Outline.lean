import CriteriaStore.Proofs.Criteria.Binding
import CriteriaStore.Proofs.Criteria.Meaning

/-!
# Outlines of filters

Values reach a statement as bound values only. So the text of a statement is settled by the outline of the filter, which
keeps operators and properties, and of an operand its shape, its size and where there is nothing.

* Operands with the same outline fit the same operators, and are compiled to predicates that differ in bound values
  only (`predicate?_outline`).
* Filters with the same outline fail alike, or else give the same texts and the same names (`compile_outline`).
-/

namespace CriteriaStore

open Sql (Where Predicate Term)

/-! ### Outlines -/

/-- What is left of an operand without its values: its shape, and for each of its scalars whether it is nothing. -/
def Operand.outline (o : Operand) : Shape × List Bool := (o.shape, o.values.map Scalar.isNull)

/-- What is left of a condition without the values of its operand. -/
def Condition.outline (c : Condition) : String × Shape × List Bool := (c.property, c.operand.outline)

/-- What is left of the conditions of a branch that ask for something, without the values of their operands. -/
def Branch.outline (b : Branch) : List (Operator × String × Shape × List Bool) :=
  b.conditions.map fun (op, c) => (op, c.outline)

/-! ### Predicates -/

/-- The blank term of a scalar is told by whether the scalar is nothing. -/
private def blankTerm (isNull : Bool) : Term := if isNull then .null else .bound .null

private theorem blank_ofScalar (v : Scalar) : (Term.ofScalar v).blank = blankTerm v.isNull := by
  cases v <;> rfl

namespace Operator

/-- Up to its bound value, the predicate on a scalar is the one on nothing or the one on zero. -/
private theorem blank_predicate?_scalar (op : Operator) (column : String) (v : Scalar) :
    (op.predicate? column (.scalar v)).map Predicate.blank =
      (op.predicate? column (.scalar (if v.isNull then .null else .int 0))).map Predicate.blank := by
  cases v with
  | null => rfl
  | _ => cases op <;> simp [predicate?, matching?, Predicate.blank, blank_ofScalar, Scalar.isNull]

/-- Operands with the same outline are compiled to predicates that differ in bound values only. -/
theorem predicate?_outline (op : Operator) (column : String) {o o' : Operand} (h : o.outline = o'.outline) :
    (op.predicate? column o).map Predicate.blank = (op.predicate? column o').map Predicate.blank := by
  obtain ⟨hshape, hvalues⟩ := Prod.mk.inj h
  cases o with
  | none =>
    cases o' with
    | none => rfl
    | _ => cases hshape
  | scalar v =>
    cases o' with
    | scalar v' =>
      have hnull : v.isNull = v'.isNull := List.head_eq_of_cons_eq hvalues
      rw [blank_predicate?_scalar, hnull, ← blank_predicate?_scalar]
    | _ => cases hshape
  | pair low high =>
    cases o' with
    | pair low' high' =>
      obtain ⟨hlow, htail⟩ := List.cons.inj hvalues
      have hhigh : high.isNull = high'.isNull := List.head_eq_of_cons_eq htail
      cases op
      case range | notRange =>
        simp only [predicate?, Option.map_some, Predicate.blank, blank_ofScalar, hlow, hhigh]
      all_goals rfl
    | _ => cases hshape
  | set vs =>
    cases o' with
    | set vs' =>
      have hblank (vs : List Scalar) :
          (vs.map Term.ofScalar).map Term.blank = (vs.map Scalar.isNull).map blankTerm := by
        simp [blank_ofScalar]
      have hnulls : vs.map Scalar.isNull = vs'.map Scalar.isNull := hvalues
      cases op
      case group | notGroup => simp only [predicate?, Option.map_some, Predicate.blank, hblank, hnulls]
      all_goals rfl
    | _ => cases hshape

end Operator

namespace Filter

variable {properties : PropertyMap}

/-- A classified predicate with its bound values left blank. -/
private def blankClassified (p : Clause × Predicate) : Clause × Predicate := (p.1, p.2.blank)

/-- What is left of a condition of a filter without the values of its operand. -/
private def mark (x : Clause × Operator × Condition) : Clause × Operator × String × Shape × List Bool :=
  (x.1, x.2.1, x.2.2.outline)

private theorem translate_of_mark {x y : Clause × Operator × Condition} (h : mark x = mark y) :
    (translate properties x).map blankClassified = (translate properties y).map blankClassified := by
  obtain ⟨clause, op, property, o⟩ := x
  obtain ⟨clause', op', property', o'⟩ := y
  simp only [mark, Condition.outline, Prod.mk.injEq] at h
  obtain ⟨rfl, rfl, rfl, houtline⟩ := h
  -- an error tells the operator and the property only, which the two conditions share
  unfold translate Condition.predicate
  cases hcolumn : PropertyMap.column properties property with
  | error e => rfl
  | ok column =>
    have hblank := (clause.applied op).predicate?_outline column houtline
    simp only
    cases hp : (clause.applied op).predicate? column o with
    | none =>
      rw [hp] at hblank
      rw [Option.map_eq_none_iff.1 hblank.symm]
    | some p =>
      rw [hp] at hblank
      obtain ⟨p', hp', hpp'⟩ := Option.map_eq_some_iff.1 hblank.symm
      simp only [hp', Except.map, blankClassified, hpp']

private theorem map_mapM_cons {α β γ ε : Type} (f : α → Except ε β) (g : β → γ) (x : α) (xs : List α) :
    ((x :: xs).mapM f).map (List.map g) = match (f x).map g, (xs.mapM f).map (List.map g) with
      | .error e, _ => .error e
      | .ok _, .error e => .error e
      | .ok y, .ok ys => .ok (y :: ys) := by
  rw [List.mapM_cons]
  cases f x with
  | error e => rfl
  | ok y => cases xs.mapM f <;> rfl

private theorem mapM_translate_of_marks {xs ys : List (Clause × Operator × Condition)} (h : xs.map mark = ys.map mark) :
    (xs.mapM (translate properties)).map (List.map blankClassified) =
      (ys.mapM (translate properties)).map (List.map blankClassified) := by
  induction xs generalizing ys with
  | nil => rw [List.map_eq_nil_iff.1 h.symm]
  | cons x xs ih =>
    cases ys with
    | nil => cases h
    | cons y ys =>
      obtain ⟨hhead, htail⟩ := List.cons.inj h
      rw [map_mapM_cons, map_mapM_cons, translate_of_mark hhead, ih htail]

private theorem mark_conditions {f g : Filter} (h : ∀ clause, (f.branch clause).outline = (g.branch clause).outline) :
    f.conditions.map mark = g.conditions.map mark := by
  have hmark (f : Filter) : f.conditions.map mark =
      Clause.all.flatMap fun clause => (f.branch clause).outline.map fun x => (clause, x) := by
    simp [conditions, Branch.outline, List.map_flatMap, Function.comp_def, mark]
  simp only [hmark, h]

/-! ### Conditions and names -/

private theorem blank_of? (ps qs : List Predicate) :
    (Where.of? ps qs).map Where.blank = Where.of? (ps.map Predicate.blank) (qs.map Predicate.blank) := by
  cases ps with
  | nil => cases qs <;> rfl
  | cons p ps => rfl

private theorem blank_combine (ps : List (Clause × Predicate)) :
    (combine ps).map Where.blank = combine (ps.map blankClassified) := by
  unfold combine
  rw [blank_of?]
  simp [List.filter_map, Function.comp_def, blankClassified]

private theorem length_parameters_blank (p : Predicate) : p.blank.parameters.length = p.parameters.length := by
  have hterm (t : Term) : t.blank.parameters.length = t.parameters.length := by cases t <;> rfl
  cases p with
  | isIn c negated values =>
    simp [Predicate.blank, Predicate.parameters, List.length_flatMap, Function.comp_def, hterm]
  | _ => simp [Predicate.blank, Predicate.parameters, hterm]

private theorem clauses_boundBy (ps : List (Clause × Predicate)) :
    (boundBy ps).map Prod.fst = (boundBy (ps.map blankClassified)).map Prod.fst := by
  simp [boundBy, List.map_flatMap, List.flatMap_map, Function.comp_def, blankClassified, List.map_const',
    length_parameters_blank]

end Filter

private theorem Bindings.names_numbered (n : Nat) {xs ys : List (Clause × Scalar)}
    (h : xs.map Prod.fst = ys.map Prod.fst) :
    (numbered n xs).map Binding.name = (numbered n ys).map Binding.name := by
  induction xs generalizing n ys with
  | nil => rw [List.map_eq_nil_iff.1 h.symm]
  | cons x xs ih =>
    cases ys with
    | nil => cases h
    | cons y ys =>
      obtain ⟨hhead, htail⟩ := List.cons.inj h
      rw [numbered_cons, numbered_cons, List.map_cons, List.map_cons, ih _ htail, hhead]

namespace Filter

/-- Filters whose branches have the same outlines, compiled after the same values, either fail with the same error, or
are both compiled: then a selection by the one is the same text as by the other in every dialect, and the values named
on the way have the same names. -/
theorem compile_outline (properties : PropertyMap) (f g : Filter) (b : Bindings)
    (h : ∀ clause, (f.branch clause).outline = (g.branch clause).outline) :
    (∃ e b₁ b₂, f.compile properties b = (.error e, b₁) ∧ g.compile properties b = (.error e, b₂)) ∨
      ∃ v w xs ys, f.compile properties b = (.ok v, ⟨b.entries ++ xs⟩) ∧
        g.compile properties b = (.ok w, ⟨b.entries ++ ys⟩) ∧
        xs.map Binding.name = ys.map Binding.name ∧
        ∀ (d : Sql.Dialect) (q : Sql.Select),
          (Sql.Statement.select { q with condition := v }).render d =
            (Sql.Statement.select { q with condition := w }).render d := by
  have hmapM : (f.conditions.mapM (translate properties)).map (List.map blankClassified) =
      (g.conditions.mapM (translate properties)).map (List.map blankClassified) :=
    mapM_translate_of_marks (mark_conditions h)
  cases hf : f.conditions.mapM (translate properties) with
  | error e =>
    cases hg : g.conditions.mapM (translate properties) with
    | ok qs => rw [hf, hg] at hmapM; cases hmapM
    | error e' =>
      rw [hf, hg] at hmapM
      obtain rfl : e = e' := Except.error.inj hmapM
      obtain ⟨b₁, hb₁⟩ := compile_of_error hf b
      obtain ⟨b₂, hb₂⟩ := compile_of_error hg b
      exact Or.inl ⟨e, b₁, b₂, hb₁, hb₂⟩
  | ok ps =>
    cases hg : g.conditions.mapM (translate properties) with
    | error e => rw [hf, hg] at hmapM; cases hmapM
    | ok qs =>
      rw [hf, hg] at hmapM
      have hblank : ps.map blankClassified = qs.map blankClassified := Except.ok.inj hmapM
      have hclauses : (boundBy ps).map Prod.fst = (boundBy qs).map Prod.fst := by
        rw [clauses_boundBy, hblank, ← clauses_boundBy]
      have hcondition : (combine ps).map Where.blank = (combine qs).map Where.blank := by
        rw [blank_combine, hblank, ← blank_combine]
      refine Or.inr ⟨combine ps, combine qs, Bindings.numbered (b.entries.length + 1) (boundBy ps),
        Bindings.numbered (b.entries.length + 1) (boundBy qs), ?_, ?_, Bindings.names_numbered _ hclauses, ?_⟩
      · rw [compile_of_ok hf, ← Bindings.entries_recordEach]
      · rw [compile_of_ok hg, ← Bindings.entries_recordEach]
      · intro d q
        refine Sql.render_select_of_blank ?_ ?_ d
        · exact hcondition
        · rfl

/-- A text with quotes in it, in place of one with a special character of patterns, and an integer in place of a truth
value beside nothing. -/
theorem compile_outline_of_quotes :
    let properties : PropertyMap := OrderedMap.ofList [("name", "customer_name"), ("orders", "total_orders")]
    let f := (Filter.empty.push .should .contains ⟨"name", .scalar (.text "100%")⟩).push .mustNot .group
      ⟨"orders", .set [.bool true, .null]⟩
    let g := (Filter.empty.push .should .contains ⟨"name", .scalar (.text "' OR '1' = '1")⟩).push .mustNot .group
      ⟨"orders", .set [.int 7, .null]⟩
    (∀ clause, (f.branch clause).outline = (g.branch clause).outline) ∧
      ∃ v w xs ys, f.compile properties {} = (.ok v, ⟨xs⟩) ∧ g.compile properties {} = (.ok w, ⟨ys⟩) ∧
        xs.map Binding.name = ys.map Binding.name ∧
        ∀ (d : Sql.Dialect) (q : Sql.Select),
          (Sql.Statement.select { q with condition := v }).render d =
            (Sql.Statement.select { q with condition := w }).render d := by
  intro properties f g
  have hsame : ∀ clause, (f.branch clause).outline = (g.branch clause).outline := by
    intro clause
    cases clause <;> rfl
  refine ⟨hsame, ?_⟩
  rcases compile_outline properties f g {} hsame with ⟨e, b₁, b₂, hf, -⟩ | hcompiled
  · cases hf
  · exact hcompiled

end Filter

end CriteriaStore
