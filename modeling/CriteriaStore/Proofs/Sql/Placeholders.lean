import CriteriaStore.Sql.Dialect

/-!
# Placeholders of a statement

The pieces of a statement show its values in one way only: as what is bound to a placeholder. So a statement has two
sides that do not touch.

* What is bound, from left to right, are the parameters of its condition and then its row numbers (`bound_select`).
  Neither the dialect nor the grouping of predicates matters.
* Its text is the same for all statements with the same outline, that is, with the same text between the placeholders
  (`write_eq_of_outline`). Conditions that differ in bound values only have the same outline (`outline_pieces_blank`).
-/

namespace CriteriaStore.Sql

variable {d : Dialect}

/-! ### What is bound -/

namespace Piece

/-- What is bound to the placeholders among pieces, from left to right. -/
def parameters (pieces : List Piece) : List Parameter := pieces.filterMap parameter?

@[simp] theorem parameters_nil : parameters [] = [] := rfl

@[simp] theorem parameters_text_cons (s : String) (pieces : List Piece) :
    parameters (.text s :: pieces) = parameters pieces := rfl

@[simp] theorem parameters_placeholder_cons (p : Parameter) (pieces : List Piece) :
    parameters (.placeholder p :: pieces) = p :: parameters pieces := rfl

@[simp] theorem parameters_append (xs ys : List Piece) : parameters (xs ++ ys) = parameters xs ++ parameters ys :=
  List.filterMap_append

@[simp] theorem parameters_parenthesized (pieces : List Piece) : parameters (parenthesized pieces) = parameters pieces := by
  simp [parenthesized]

@[simp] theorem parameters_separated (separator : String) (parts : List (List Piece)) :
    parameters (separated separator parts) = parts.flatMap parameters := by
  induction parts with
  | nil => rfl
  | cons p rest ih =>
    cases rest with
    | nil => simp [separated]
    | cons q rest => simp [separated, ih]

end Piece

open Piece (parameters)

@[simp] theorem Term.parameters_pieces (t : Term) : Piece.parameters t.pieces = t.parameters.map .value := by
  cases t <;> rfl

@[simp] theorem Predicate.parameters_pieces (d : Dialect) (p : Predicate) :
    Piece.parameters (p.pieces d) = p.parameters.map .value := by
  cases p with
  | isIn c negated values =>
    simp [Predicate.pieces, Predicate.parameters, List.flatMap_map, List.map_flatMap]
  | _ => simp [Predicate.pieces, Predicate.parameters]

@[simp] theorem Predicate.parameters_memberPieces (d : Dialect) (p : Predicate) :
    Piece.parameters (p.memberPieces d) = p.parameters.map .value := by
  unfold memberPieces
  split <;> simp

@[simp] theorem parameters_groupPieces (d : Dialect) (separator : String) (ps : List Predicate) :
    parameters (groupPieces d separator ps) = (ps.flatMap Predicate.parameters).map .value := by
  unfold groupPieces
  split
  · simp
  · simp [List.flatMap_map, List.map_flatMap]

@[simp] theorem parameters_nestedGroupPieces (d : Dialect) (separator : String) (ps : List Predicate) :
    parameters (nestedGroupPieces d separator ps) = (ps.flatMap Predicate.parameters).map .value := by
  unfold nestedGroupPieces
  split <;> simp

/-- A condition binds its parameters from left to right, whether its groups are nested or not. -/
@[simp] theorem Where.parameters_pieces (d : Dialect) (w : Where) :
    Piece.parameters (w.pieces d) = w.parameters.map .value := by
  unfold Where.pieces Where.parameters
  split <;> simp_all

@[simp] theorem parameters_wherePieces (d : Dialect) (condition : Option Where) :
    parameters (wherePieces d condition) = (condition.elim [] Where.parameters).map .value := by
  cases condition <;> simp [wherePieces]

@[simp] theorem parameters_rowsPieces (keyword : String) (rows : Option UInt64) :
    parameters (rowsPieces keyword rows) = rows.toList.map .rows := by
  cases rows <;> rfl

/-- A selection binds the parameters of its condition, and then its row numbers. -/
theorem bound_select (d : Dialect) (q : Select) :
    (Statement.select q).bound d =
      (q.condition.elim [] Where.parameters).map .value ++ q.limit.toList.map .rows ++ q.offset.toList.map .rows := by
  show parameters (q.pieces d) = _
  unfold Select.pieces
  simp

/-! ### What is written -/

/-- The text of a piece; a placeholder shows nothing of what is bound to it. -/
def Piece.outline : Piece → Option String
  | text s => some s
  | placeholder _ => none

open Piece (outline)

private theorem writeFrom_eq_of_outline {xs ys : List Piece} (h : xs.map outline = ys.map outline) (n : Nat) :
    d.writeFrom n xs = d.writeFrom n ys := by
  induction xs generalizing ys n with
  | nil => rw [List.map_eq_nil_iff.1 h.symm]
  | cons x xs ih =>
    cases ys with
    | nil => simp at h
    | cons y ys =>
      rw [List.map_cons, List.map_cons, List.cons.injEq] at h
      obtain ⟨hhead, htail⟩ := h
      cases x with
      | text s =>
        cases y with
        | text s' =>
          obtain rfl : s = s' := Option.some.inj hhead
          simp only [Dialect.writeFrom, ih htail n]
        | placeholder p => cases hhead
      | placeholder p =>
        cases y with
        | text s' => cases hhead
        | placeholder p' => simp only [Dialect.writeFrom, ih htail (n + 1)]

/-- Pieces with the same outline are the same text in every dialect. -/
theorem write_eq_of_outline {xs ys : List Piece} (h : xs.map outline = ys.map outline) : d.write xs = d.write ys :=
  writeFrom_eq_of_outline h 1

/-- A term with its bound value left blank. -/
def Term.blank : Term → Term
  | null => null
  | bound _ => bound .null

/-- A predicate with its bound values left blank. -/
def Predicate.blank : Predicate → Predicate
  | isNull c => isNull c
  | isNotNull c => isNotNull c
  | compare c r v => compare c r v.blank
  | like c negated _ => like c negated ""
  | between c negated low high => between c negated low.blank high.blank
  | isIn c negated values => isIn c negated (values.map Term.blank)

/-- A condition with its bound values left blank. -/
def Where.blank (w : Where) : Where where
  required := w.required.map Predicate.blank
  alternatives := w.alternatives.map Predicate.blank
  nonempty := w.nonempty.imp (mt List.map_eq_nil_iff.1) (mt List.map_eq_nil_iff.1)

private theorem outline_separated {α : Type} {f g : α → List Piece} {xs : List α} (separator : String)
    (h : ∀ x ∈ xs, (f x).map outline = (g x).map outline) :
    (separated separator (xs.map f)).map outline = (separated separator (xs.map g)).map outline := by
  induction xs with
  | nil => rfl
  | cons x xs ih =>
    have hx := h x List.mem_cons_self
    have hxs := ih fun y hy => h y (List.mem_cons_of_mem _ hy)
    cases xs with
    | nil => simpa [separated] using hx
    | cons y xs =>
      simp only [List.map_cons, separated, List.map_append] at hxs ⊢
      rw [hx, hxs]

private theorem outline_parenthesized {xs ys : List Piece} (h : xs.map outline = ys.map outline) :
    (parenthesized xs).map outline = (parenthesized ys).map outline := by
  simp [parenthesized, h]

private theorem Term.outline_pieces_blank (t : Term) : t.blank.pieces.map outline = t.pieces.map outline := by
  cases t <;> rfl

private theorem Predicate.outline_pieces_blank (d : Dialect) (p : Predicate) :
    (p.blank.pieces d).map outline = (p.pieces d).map outline := by
  cases p with
  | isIn c negated values =>
    simp only [blank, pieces, List.map_map, List.map_cons, List.cons.injEq, true_and]
    exact outline_parenthesized (outline_separated ", " fun t _ => t.outline_pieces_blank)
  | _ => simp [blank, pieces, Term.outline_pieces_blank, outline]

private theorem Predicate.outline_memberPieces_blank (d : Dialect) (p : Predicate) :
    (p.blank.memberPieces d).map outline = (p.memberPieces d).map outline := by
  have hpieces := p.outline_pieces_blank d
  cases p with
  | between c negated low high => exact outline_parenthesized hpieces
  | _ => exact hpieces

private theorem outline_groupPieces_blank (d : Dialect) (separator : String) (ps : List Predicate) :
    (groupPieces d separator (ps.map Predicate.blank)).map outline = (groupPieces d separator ps).map outline := by
  have hmembers : (separated separator ((ps.map Predicate.blank).map (Predicate.memberPieces d))).map outline =
      (separated separator (ps.map (Predicate.memberPieces d))).map outline := by
    rw [List.map_map]
    exact outline_separated separator fun p _ => p.outline_memberPieces_blank d
  match ps with
  | [] => rfl
  | [p] => exact p.outline_pieces_blank d
  | p :: q :: rest => exact hmembers

private theorem outline_nestedGroupPieces_blank (d : Dialect) (separator : String) (ps : List Predicate) :
    (nestedGroupPieces d separator (ps.map Predicate.blank)).map outline =
      (nestedGroupPieces d separator ps).map outline := by
  match ps with
  | [] => rfl
  | [p] => exact p.outline_memberPieces_blank d
  | p :: q :: rest => exact outline_parenthesized (outline_groupPieces_blank d separator (p :: q :: rest))

/-- A condition shows the same text whatever its bound values are. -/
theorem Where.outline_pieces_blank (d : Dialect) (w : Where) :
    (w.blank.pieces d).map outline = (w.pieces d).map outline := by
  obtain ⟨ps, qs, hne⟩ := w
  cases qs with
  | nil => exact outline_groupPieces_blank d " AND " ps
  | cons q qs =>
    cases ps with
    | nil => exact outline_groupPieces_blank d " OR " (q :: qs)
    | cons p ps =>
      have hall := outline_nestedGroupPieces_blank d " AND " (p :: ps)
      have hany : (.text " OR " :: nestedGroupPieces d " OR " ((q :: qs).map Predicate.blank)).map outline =
          (.text " OR " :: nestedGroupPieces d " OR " (q :: qs)).map outline :=
        congrArg (some " OR " :: ·) (outline_nestedGroupPieces_blank d " OR " (q :: qs))
      show (nestedGroupPieces d " AND " ((p :: ps).map Predicate.blank) ++
          .text " OR " :: nestedGroupPieces d " OR " ((q :: qs).map Predicate.blank)).map outline =
        (nestedGroupPieces d " AND " (p :: ps) ++ .text " OR " :: nestedGroupPieces d " OR " (q :: qs)).map outline
      rw [List.map_append, List.map_append, hall, hany]

/-- Selections whose conditions differ in bound values only are the same text. -/
theorem render_select_of_blank {q q' : Select} (h : q.condition.map Where.blank = q'.condition.map Where.blank)
    (hq : { q with condition := none } = { q' with condition := none }) (d : Dialect) :
    (Statement.select q).render d = (Statement.select q').render d := by
  have hwhere : (wherePieces d q.condition).map outline = (wherePieces d q'.condition).map outline := by
    cases hc : q.condition with
    | none =>
      rw [hc] at h
      rw [Option.map_eq_none_iff.1 h.symm]
    | some w =>
      rw [hc] at h
      obtain ⟨w', hw', hblank⟩ := Option.map_eq_some_iff.1 h.symm
      simp only [hw', wherePieces, List.map_cons]
      rw [← w.outline_pieces_blank, ← w'.outline_pieces_blank, hblank]
  obtain ⟨table, projection, condition, order, limit, offset⟩ := q
  obtain ⟨table', projection', condition', order', limit', offset'⟩ := q'
  simp only [Select.mk.injEq, true_and] at hq
  obtain ⟨rfl, rfl, rfl, rfl, rfl⟩ := hq
  apply write_eq_of_outline
  simp only [Statement.pieces, Select.pieces, List.map_cons, List.map_append, hwhere]

end CriteriaStore.Sql
