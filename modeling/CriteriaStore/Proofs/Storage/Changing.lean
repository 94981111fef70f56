import CriteriaStore.Proofs.Storage.Keyed
import Mathlib.Data.List.Find

/-!
# Changing single records

A column tells the records of a table apart when no two of them have the same value in it (`Table.Distinguishes`). A
comparison with a value then selects no record or one (`Distinguishes.cases`), and a write of that one leaves the records
around it as they are (`Table.Singles`).

An update checks every changed record against the others. Nothing is refused when each record satisfied the declaration of
the table before (`Table.Sound`) and the update spares the columns that the declaration demands something of
(`Sound.update_eq`).
-/

namespace CriteriaStore.Storage

namespace Schema

/-- Whether a declaration demands something of a column: that it fits as a key, has a value, or differs. -/
def Guards (s : Schema) (column : String) : Prop :=
  column = s.key ∨ ∃ c ∈ s.columns, c.name = column ∧ (c.required ∨ c.unique.isSome)

end Schema

namespace Table

variable {t : Table} {condition : Option Sql.Where} {column : String} {before after : List Record} {r : Record}

/-! ### The only selected record -/

/-- Whether no two records have the same value in a column. -/
def Distinguishes (t : Table) (column : String) : Prop :=
  t.records.Pairwise fun a b => (t.schema.cell a column).compare .eq (t.schema.cell b column) ≠ .yes

/-- The one record that a condition selects, and the records before and after it. -/
structure Singles (t : Table) (condition : Option Sql.Where) (before : List Record) (r : Record) (after : List Record) :
    Prop where
  records : t.records = before ++ r :: after
  selected : selects t.schema condition r
  others : ∀ o ∈ before ++ after, selects t.schema condition o = false

/-- The table with values assigned to the selected records. -/
def changed (t : Table) (condition : Option Sql.Where) (assignments : List (Column × Cell)) : Table :=
  { t with records := t.records.map fun r => if selects t.schema condition r then assign assignments r else r }

theorem length_matching (t : Table) (condition : Option Sql.Where) :
    (t.matching condition).length = (t.records.filter (selects t.schema condition)).length :=
  (t.scan_perm.filter _).length_eq

theorem matching_eq_nil (h : ∀ r ∈ t.records, selects t.schema condition r = false) : t.matching condition = [] := by
  refine List.filter_eq_nil_iff.2 fun r hr => ?_
  rw [h r (t.scan_perm.mem_iff.1 hr)]
  exact Bool.false_ne_true

@[simp] theorem changed_nil (t : Table) (condition : Option Sql.Where) : t.changed condition [] = t := by
  unfold changed
  simp [assign]

private theorem updateFrom_of_unselected {select : Record → Bool} (change : Record → Record) (before : List Record)
    {rest : List Record} (h : ∀ r ∈ rest, select r = false) :
    t.updateFrom select change before rest = .ok (before ++ rest) := by
  induction rest generalizing before with
  | nil => rw [updateFrom, List.append_nil]
  | cons r rest ih =>
    have hnext := ih (before ++ [r]) fun o ho => h o (List.mem_cons_of_mem _ ho)
    simp only [updateFrom, h r List.mem_cons_self]
    rwa [List.append_assoc] at hnext

/-- An update that selects nothing is not refused, and changes nothing. -/
theorem update_eq_self (h : ∀ r ∈ t.records, selects t.schema condition r = false)
    (assignments : List (Column × Cell)) : t.update condition assignments = .ok t := by
  unfold update
  rw [updateFrom_of_unselected (assign assignments) [] h]
  rfl

namespace Singles

/-- The only record of a table, when it is selected. -/
theorem of_records (hrecords : t.records = [r]) (hselected : selects t.schema condition r) :
    t.Singles condition [] r [] where
  records := hrecords
  selected := hselected
  others := List.forall_mem_nil _

variable (h : t.Singles condition before r after)

include h

theorem mem : r ∈ t.records := by
  rw [h.records]
  exact List.mem_append_right _ List.mem_cons_self

private theorem map_others {f : Record → Record} {l : List Record} (hl : ∀ o ∈ l, o ∈ before ++ after) :
    (l.map fun o => if selects t.schema condition o then f o else o) = l := by
  rw [List.map_congr_left fun o ho => if_neg (by rw [h.others o (hl o ho)]; exact Bool.false_ne_true), List.map_id']

theorem filter : t.records.filter (selects t.schema condition) = [r] := by
  have hnone (l : List Record) (hl : ∀ o ∈ l, o ∈ before ++ after) : l.filter (selects t.schema condition) = [] :=
    List.filter_eq_nil_iff.2 fun o ho => by simp [h.others o (hl o ho)]
  rw [h.records, List.filter_append, List.filter_cons_of_pos h.selected, hnone before fun o ho => List.mem_append_left _ ho,
    hnone after fun o ho => List.mem_append_right _ ho, List.nil_append]

theorem matching : t.matching condition = [r] := by
  have hperm : (t.matching condition).Perm (t.records.filter (selects t.schema condition)) := t.scan_perm.filter _
  rw [h.filter] at hperm
  exact List.perm_singleton.1 hperm

theorem changed (assignments : List (Column × Cell)) :
    t.changed condition assignments = { t with records := before ++ assign assignments r :: after } := by
  unfold Table.changed
  congr 1
  rw [h.records, List.map_append, List.map_cons, if_pos h.selected, h.map_others fun o ho => List.mem_append_left _ ho,
    h.map_others fun o ho => List.mem_append_right _ ho]

theorem delete : t.delete condition = { t with records := before ++ after } := by
  have hkept (l : List Record) (hl : ∀ o ∈ l, o ∈ before ++ after) :
      (l.filter fun o => !selects t.schema condition o) = l :=
    List.filter_eq_self.2 fun o ho => by rw [h.others o (hl o ho)]; rfl
  unfold Table.delete
  congr 1
  rw [h.records, List.filter_append, List.filter_cons_of_neg (by simp [h.selected]),
    hkept before fun o ho => List.mem_append_left _ ho, hkept after fun o ho => List.mem_append_right _ ho]

end Singles

/-- A comparison with a column that tells the records apart selects no record or one. -/
theorem Distinguishes.cases (h : t.Distinguishes column) (v : Sql.Term) :
    (∀ r ∈ t.records, selects t.schema (some (.single (.compare column .eq v))) r = false) ∨
      ∃ before r after, t.Singles (some (.single (.compare column .eq v))) before r after := by
  by_cases hsome : ∃ r ∈ t.records, selects t.schema (some (.single (.compare column .eq v))) r
  · obtain ⟨r, hr, hsel⟩ := hsome
    obtain ⟨before, after, hsplit⟩ := List.append_of_mem hr
    refine .inr ⟨before, r, after, hsplit, hsel, fun o ho => ?_⟩
    have hapart : List.Pairwise (fun a b => (t.schema.cell a column).compare .eq (t.schema.cell b column) ≠ .yes)
        (r :: (before ++ after)) := by
      unfold Distinguishes at h
      rw [hsplit, List.pairwise_middle] at h
      · exact h
      · intro a b hab hba
        rw [Cell.compare_eq_yes] at hba
        exact hab (Cell.compare_eq_yes.2 ⟨hba.2.1, hba.1, Cell.same_symm hba.2.2⟩)
    -- two records with the value would have the same value
    rw [Bool.eq_false_iff]
    intro hsel'
    rw [Schema.selects_compare, Cell.compare_eq_yes] at hsel hsel'
    refine (List.pairwise_cons.1 hapart).1 o ho (Cell.compare_eq_yes.2 ⟨hsel.1, hsel'.1, ?_⟩)
    exact Cell.same_trans hsel.2.2 (Cell.same_symm hsel'.2.2)
  · refine .inl fun r hr => ?_
    rw [Bool.eq_false_iff]
    exact fun hsel => hsome ⟨r, hr, hsel⟩

/-! ### Assigned columns -/

theorem cell_assign {assignments : List (Column × Cell)} {column : String}
    (h : ∀ a ∈ assignments, a.1.name ≠ column) (r : Record) :
    Record.cell (assign assignments r) column = Record.cell r column := by
  unfold assign
  induction assignments generalizing r with
  | nil => rfl
  | cons a rest ih =>
    rw [List.foldl_cons, ih fun a ha => h a (List.mem_cons_of_mem _ ha)]
    unfold Record.cell
    rw [OrderedMap.get?_insert, if_neg (h a List.mem_cons_self)]

/-- A column that is assigned holds what it stores of the assigned value, when several assignments agree. -/
theorem cell_assign_of_mem {assignments : List (Column × Cell)} {a : Column × Cell} (ha : a ∈ assignments)
    (hall : ∀ b ∈ assignments, b.1.name = a.1.name → b = a) (r : Record) :
    Record.cell (assign assignments r) a.1.name = a.1.type.store a.2 := by
  induction assignments generalizing r with
  | nil => cases ha
  | cons b rest ih =>
    show Record.cell (assign rest (r.insert b.1.name (b.1.type.store b.2))) a.1.name = _
    by_cases hrest : a ∈ rest
    · exact ih hrest (fun b hb => hall b (List.mem_cons_of_mem _ hb)) _
    · obtain rfl : a = b := (List.mem_cons.1 ha).resolve_right hrest
      have hlater : ∀ b ∈ rest, b.1.name ≠ a.1.name := by
        intro b hb hname
        obtain rfl := hall b (List.mem_cons_of_mem _ hb) hname
        exact hrest hb
      rw [cell_assign hlater]
      unfold Record.cell
      rw [OrderedMap.get?_insert, if_pos rfl]
      rfl

/-- A record of a changed table has been one of the table, with the same cells in all columns that are not assigned. -/
theorem exists_of_mem_changed {assignments : List (Column × Cell)} {r' : Record}
    (h : r' ∈ (t.changed condition assignments).records) :
    ∃ r ∈ t.records, ∀ column, (∀ a ∈ assignments, a.1.name ≠ column) → Record.cell r' column = Record.cell r column := by
  obtain ⟨r, hr, rfl⟩ := List.mem_map.1 h
  refine ⟨r, hr, fun column hcolumn => ?_⟩
  split
  · exact cell_assign hcolumn r
  · rfl

theorem exists_mem_changed (condition : Option Sql.Where) (assignments : List (Column × Cell)) (hr : r ∈ t.records) :
    ∃ r' ∈ (t.changed condition assignments).records, ∀ column, (∀ a ∈ assignments, a.1.name ≠ column) →
      Record.cell r' column = Record.cell r column := by
  refine ⟨_, List.mem_map_of_mem hr, fun column hcolumn => ?_⟩
  split
  · exact cell_assign hcolumn r
  · rfl

/-! ### Updates that are not refused -/

/-- Whether every record satisfies the declaration of the table beside the others. -/
def Sound (t : Table) : Prop :=
  ∀ before r after, t.records = before ++ r :: after → t.keyFits r ∧ t.violation? (before ++ after) r = none

theorem keyFits_congr {r r' : Record} (h : Record.cell r' t.schema.key = Record.cell r t.schema.key) :
    t.keyFits r' = t.keyFits r := by
  unfold keyFits
  rw [h]

private theorem taken_congr {others others' : List Record} {r r' : Record}
    (hr : Record.cell r' column = Record.cell r column)
    (ho : (others'.map fun o => Record.cell o column) = others.map fun o => Record.cell o column) :
    taken others' r' column = taken others r column := by
  have hany (l : List Record) (v : Cell) :
      (l.any fun o => (Record.cell o column).same v) = (l.map fun o => Record.cell o column).any (·.same v) := by
    rw [List.any_map]
    rfl
  unfold taken
  rw [hany, hany, hr, ho]

private theorem findSome?_congr {α β : Type} {f g : α → Option β} {l : List α} (h : ∀ a ∈ l, f a = g a) :
    l.findSome? f = l.findSome? g := by
  induction l with
  | nil => rfl
  | cons a rest ih =>
    rw [List.findSome?_cons, List.findSome?_cons, h a List.mem_cons_self,
      ih fun b hb => h b (List.mem_cons_of_mem _ hb)]

/-- What is wrong with a record depends on the guarded columns alone. -/
theorem violation?_congr {others others' : List Record} {r r' : Record}
    (hr : ∀ column, t.schema.Guards column → Record.cell r' column = Record.cell r column)
    (ho : ∀ column, t.schema.Guards column →
      (others'.map fun o => Record.cell o column) = others.map fun o => Record.cell o column) :
    t.violation? others' r' = t.violation? others r := by
  have hkey : t.schema.Guards t.schema.key := .inl rfl
  have hdemanded : (t.schema.columns.find? fun c => t.demands c && (Record.cell r' c.name).isNull) =
      t.schema.columns.find? fun c => t.demands c && (Record.cell r c.name).isNull := by
    refine List.find?_congr fun c hc => ?_
    cases hdemands : t.demands c with
    | false => rfl
    | true =>
      have hguards : t.schema.Guards c.name := by
        simp only [demands, Bool.or_eq_true, Bool.and_eq_true, beq_iff_eq] at hdemands
        exact hdemands.elim (fun hrequired => .inr ⟨c, hc, rfl, .inl hrequired⟩) fun hnatural => .inl hnatural.2
      rw [hr c.name hguards]
  have hunique : (t.schema.columns.findSome? fun c => c.unique.bind fun effect =>
        if taken others' r' c.name then some (StorageError.duplicateValue t.schema.name c.name effect) else none) =
      t.schema.columns.findSome? fun c => c.unique.bind fun effect =>
        if taken others r c.name then some (StorageError.duplicateValue t.schema.name c.name effect) else none := by
    refine findSome?_congr fun c hc => ?_
    cases hu : c.unique with
    | none => rfl
    | some effect =>
      have hguards : t.schema.Guards c.name := .inr ⟨c, hc, rfl, .inr (by rw [hu]; rfl)⟩
      simp only [Option.bind_some, taken_congr (hr c.name hguards) (ho c.name hguards)]
  unfold violation?
  rw [hdemanded, hunique, taken_congr (hr _ hkey) (ho _ hkey)]

/-- Where an update has come to, the records so far are changed and the others are still to come. -/
private theorem Sound.updateFrom_eq (h : t.Sound) {select : Record → Bool} {change : Record → Record}
    (hchange : ∀ column, t.schema.Guards column → ∀ r, Record.cell (change r) column = Record.cell r column)
    (before : List Record) {rest : List Record} (hsplit : t.records = before ++ rest) :
    t.updateFrom select change (before.map fun r => if select r then change r else r) rest =
      .ok (t.records.map fun r => if select r then change r else r) := by
  induction rest generalizing before with
  | nil => rw [updateFrom, hsplit, List.append_nil]
  | cons r rest ih =>
    have hnext : t.records = (before ++ [r]) ++ rest := by rw [hsplit, List.append_assoc]; rfl
    have hmap : (before.map fun r => if select r then change r else r) ++ [if select r then change r else r] =
        (before ++ [r]).map fun r => if select r then change r else r := by
      rw [List.map_append]
      rfl
    cases hsel : select r with
    | false =>
      have hstep := ih (before ++ [r]) hnext
      rw [← hmap, hsel] at hstep
      simp only [updateFrom, hsel]
      exact hstep
    | true =>
      obtain ⟨hfits, hviolation⟩ := h before r rest hsplit
      have hfits' : t.keyFits (change r) := by
        rw [keyFits_congr (hchange _ (.inl rfl) r)]
        exact hfits
      have hviolation' : t.violation? ((before.map fun r => if select r then change r else r) ++ rest) (change r) =
          none := by
        rw [← hviolation]
        refine violation?_congr (fun column hguards => hchange column hguards r) fun column hguards => ?_
        rw [List.map_append, List.map_append, List.map_map]
        congr 1
        refine List.map_congr_left fun o _ => ?_
        rw [Function.comp_apply]
        split
        · exact hchange column hguards o
        · rfl
      have hstep := ih (before ++ [r]) hnext
      rw [← hmap, hsel] at hstep
      simp only [updateFrom, hsel, if_true, hfits', Bool.not_true, Bool.false_eq_true, if_false, hviolation']
      exact hstep

/-- An update of columns that the declaration demands nothing of changes the selected records. -/
theorem Sound.update_eq (h : t.Sound) (condition : Option Sql.Where) {assignments : List (Column × Cell)}
    (ha : ∀ a ∈ assignments, ¬t.schema.Guards a.1.name) :
    t.update condition assignments = .ok (t.changed condition assignments) := by
  have hspared : ∀ column, t.schema.Guards column → ∀ r,
      Record.cell (assign assignments r) column = Record.cell r column := by
    intro column hguards
    exact cell_assign fun a hmem hname => ha a hmem (hname ▸ hguards)
  have hrecords : t.updateFrom (selects t.schema condition) (assign assignments) [] t.records =
      .ok (t.changed condition assignments).records := h.updateFrom_eq hspared [] rfl
  unfold update
  rw [hrecords]
  rfl

end Table

end CriteriaStore.Storage
