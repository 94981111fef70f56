import CriteriaStore.Criteria.Page

/-!
# Page numbers and row numbers

The word arithmetic of pages, in plain numbers. A request is accepted when its page, were it full, would end within the
positive signed words (`accepts_iff`); then nothing wraps, and the page begins after all rows of the pages before it
(`toNat_offset`).

Cut into pages of one size, a list is its pages one after another: all of them are full but the last one, which is not
empty, and after it there is nothing (`paginates_pageOf`).
-/

namespace CriteriaStore

/-! ### Words -/

section Words

variable {a b c : UInt64}

/-- Checked subtraction is subtraction of plain numbers. -/
theorem checkedSub?_eq_some : checkedSub? a b = some c ↔ c.toNat + b.toNat = a.toNat := by
  unfold checkedSub?
  by_cases h : b ≤ a
  · have hsub := UInt64.toNat_sub_of_le a b h
    have hle := UInt64.le_iff_toNat_le.1 h
    rw [if_pos h, Option.some.injEq, ← UInt64.toNat_inj, hsub]
    omega
  · rw [UInt64.le_iff_toNat_le] at h
    rw [if_neg (by rwa [UInt64.le_iff_toNat_le])]
    constructor
    · intro he
      cases he
    · omega

/-- Checked multiplication is multiplication of plain numbers. -/
theorem checkedMul?_eq_some : checkedMul? a b = some c ↔ a.toNat * b.toNat = c.toNat := by
  unfold checkedMul?
  by_cases h : a.toNat * b.toNat < UInt64.size
  · rw [if_pos h, Option.some.injEq, ← UInt64.toNat_inj, UInt64.toNat_mul, Nat.mod_eq_of_lt h]
  · rw [if_neg h]
    constructor
    · intro he
      cases he
    · intro he
      rw [he] at h
      exact absurd c.toNat_lt h

/-- Checked addition is addition of plain numbers. -/
theorem checkedAdd?_eq_some : checkedAdd? a b = some c ↔ a.toNat + b.toNat = c.toNat := by
  unfold checkedAdd?
  by_cases h : a.toNat + b.toNat < UInt64.size
  · rw [if_pos h, Option.some.injEq, ← UInt64.toNat_inj, UInt64.toNat_add, Nat.mod_eq_of_lt h]
  · rw [if_neg h]
    constructor
    · intro he
      cases he
    · intro he
      rw [he] at h
      exact absurd c.toNat_lt h

end Words

/-- The pages that a number of rows takes. -/
def pageCount (size total : Nat) : Nat := (total + size - 1) / size

/-- Some pages are enough when they have room for all rows. -/
theorem pageCount_le_iff {size total n : Nat} (hsize : 1 ≤ size) : pageCount size total ≤ n ↔ total ≤ n * size := by
  unfold pageCount
  rw [Nat.div_le_iff_le_mul hsize]
  omega

theorem le_pageCount_mul {size : Nat} (hsize : 1 ≤ size) (total : Nat) : total ≤ pageCount size total * size :=
  (pageCount_le_iff hsize).1 (Nat.le_refl _)

theorem lt_pageCount_iff {size total n : Nat} (hsize : 1 ≤ size) : n < pageCount size total ↔ n * size < total := by
  have hle : pageCount size total ≤ n ↔ total ≤ n * size := pageCount_le_iff hsize
  omega

/-- The quotient of words rounded up does not wrap. -/
theorem toNat_divCeil (a : UInt64) {b : UInt64} (hb : 1 ≤ b.toNat) :
    (divCeil a b).toNat = pageCount b.toNat a.toNat := by
  have hsplit : a.toNat / b.toNat * b.toNat + a.toNat % b.toNat = a.toNat := Nat.div_add_mod' _ _
  have hcover := le_pageCount_mul hb a.toNat
  have hrest : a % b = 0 ↔ a.toNat % b.toNat = 0 := by
    rw [← UInt64.toNat_inj, UInt64.toNat_mod]
    rfl
  unfold divCeil
  by_cases h : a % b = 0
  · rw [if_pos h, UInt64.toNat_div]
    rw [hrest] at h
    apply Nat.le_antisymm
    · exact Nat.le_of_mul_le_mul_right (by omega) hb
    · exact (pageCount_le_iff hb).2 (by omega)
  · rw [if_neg h, UInt64.toNat_add, UInt64.toNat_div]
    rw [hrest] at h
    have hmod := Nat.mod_lt a.toNat hb
    have hle : a.toNat / b.toNat ≤ a.toNat / b.toNat * b.toNat := Nat.le_mul_of_pos_right _ hb
    have hword : a.toNat / b.toNat + 1 < 2 ^ 64 := by
      have ha := a.toNat_lt
      omega
    have hnext : (a.toNat / b.toNat + 1) * b.toNat = a.toNat / b.toNat * b.toNat + b.toNat := Nat.succ_mul _ _
    show (a.toNat / b.toNat + 1) % 2 ^ 64 = _
    rw [Nat.mod_eq_of_lt hword]
    apply Nat.le_antisymm
    · exact (lt_pageCount_iff hb).2 (by omega)
    · exact (pageCount_le_iff hb).2 (by omega)

namespace PageRequest

/-- The last row of a full page is counted without wrapping, or not at all. -/
theorem lastRow?_eq_some {number size last : UInt64} :
    lastRow? number size = some last ↔
      1 ≤ number.toNat ∧ 1 ≤ size.toNat ∧ number.toNat * size.toNat = last.toNat := by
  have hzero : size = 0 ↔ size.toNat = 0 := UInt64.toNat_inj.symm
  have hone : (1 : UInt64).toNat = 1 := rfl
  unfold lastRow?
  simp only [Option.bind_eq_bind, Option.bind_eq_some_iff, checkedSub?_eq_some, hone]
  constructor
  · rintro ⟨skipped, hskipped, h⟩
    by_cases hsize : size = 0
    · rw [if_pos hsize] at h
      cases h
    · rw [if_neg hsize, Option.bind_eq_some_iff] at h
      obtain ⟨rows, hrows, hlast⟩ := h
      rw [checkedMul?_eq_some] at hrows
      rw [checkedAdd?_eq_some] at hlast
      rw [hzero] at hsize
      refine ⟨by omega, by omega, ?_⟩
      rw [← hskipped, Nat.add_mul, Nat.one_mul, hrows, hlast]
  · rintro ⟨hnumber, hsize, hlast⟩
    have hsplit : (number.toNat - 1) * size.toNat + size.toNat = number.toNat * size.toNat := by
      rw [← Nat.succ_mul]
      congr 1
      omega
    have hword : (number.toNat - 1) * size.toNat < 2 ^ 64 := by
      have hlt := last.toNat_lt
      omega
    have hpred : number.toNat - 1 < 2 ^ 64 := by
      have hlt := number.toNat_lt
      omega
    refine ⟨.ofNat (number.toNat - 1), ?_, ?_⟩
    · rw [UInt64.toNat_ofNat_of_lt' hpred]
      omega
    · rw [if_neg (by rw [hzero]; omega), Option.bind_eq_some_iff]
      refine ⟨.ofNat ((number.toNat - 1) * size.toNat), ?_, ?_⟩
      · rw [checkedMul?_eq_some, UInt64.toNat_ofNat_of_lt' hpred, UInt64.toNat_ofNat_of_lt' hword]
      · rw [checkedAdd?_eq_some, UInt64.toNat_ofNat_of_lt' hword]
        omega

/-- A page may be asked for when, were it full, it would end within the positive signed words. -/
theorem accepts_iff {number size : UInt64} :
    accepts number size ↔ 1 ≤ number.toNat ∧ 1 ≤ size.toNat ∧ number.toNat * size.toNat ≤ maxRow.toNat := by
  unfold accepts
  constructor
  · intro h
    cases hlast : lastRow? number size with
    | none =>
      rw [hlast] at h
      cases h
    | some last =>
      rw [hlast] at h
      obtain ⟨hnumber, hsize, hrows⟩ := lastRow?_eq_some.1 hlast
      have hle : last.toNat ≤ maxRow.toNat := UInt64.le_iff_toNat_le.1 (of_decide_eq_true h)
      exact ⟨hnumber, hsize, by omega⟩
  · rintro ⟨hnumber, hsize, hrows⟩
    have hmax : maxRow.toNat < 2 ^ 64 := maxRow.toNat_lt
    have hword : number.toNat * size.toNat < 2 ^ 64 := by omega
    have hlast : lastRow? number size = some (.ofNat (number.toNat * size.toNat)) :=
      lastRow?_eq_some.2 ⟨hnumber, hsize, (UInt64.toNat_ofNat_of_lt' hword).symm⟩
    rw [hlast]
    apply decide_eq_true
    rw [UInt64.le_iff_toNat_le, UInt64.toNat_ofNat_of_lt' hword]
    exact hrows

/-- The rows before an accepted page are counted without wrapping. -/
theorem toNat_offset (r : PageRequest) : r.offset.toNat = (r.number.toNat - 1) * r.size.toNat := by
  obtain ⟨hnumber, -, hlast⟩ := accepts_iff.1 r.accepted
  have hone : (1 : UInt64).toNat = 1 := rfl
  have hpred : (r.number - 1).toNat = r.number.toNat - 1 :=
    UInt64.toNat_sub_of_le r.number 1 (by rw [UInt64.le_iff_toNat_le, hone]; exact hnumber)
  have hle : (r.number.toNat - 1) * r.size.toNat ≤ r.number.toNat * r.size.toNat :=
    Nat.mul_le_mul_right _ (Nat.sub_le _ 1)
  have hmax : maxRow.toNat < 2 ^ 64 := maxRow.toNat_lt
  unfold offset
  rw [UInt64.toNat_mul, hpred]
  exact Nat.mod_eq_of_lt (by omega)

end PageRequest

/-! ### Pages of a list -/

section Pages

variable {α : Type} {size : Nat} {l : List α}

/-- The page of a list with a number, counted from one. -/
def pageOf (size : Nat) (l : List α) (number : Nat) : List α := (l.drop ((number - 1) * size)).take size

/-- Pages by number that make up a list. -/
structure Paginates (size : Nat) (l : List α) (content : Nat → List α) : Prop where
  complete : (List.range' 1 (pageCount size l.length)).flatMap content = l
  full : ∀ number, 1 ≤ number → number < pageCount size l.length → (content number).length = size
  last : 1 ≤ pageCount size l.length →
    1 ≤ (content (pageCount size l.length)).length ∧ (content (pageCount size l.length)).length ≤ size
  beyond : ∀ number, pageCount size l.length < number → content number = []

private theorem length_pageOf (size : Nat) (l : List α) (number : Nat) :
    (pageOf size l number).length = min size (l.length - (number - 1) * size) := by
  unfold pageOf
  rw [List.length_take, List.length_drop]

/-- The first pages of a list are its first rows, in order. -/
private theorem flatMap_pageOf (size : Nat) (l : List α) (n : Nat) :
    (List.range' 1 n).flatMap (pageOf size l) = l.take (n * size) := by
  induction n with
  | zero => simp
  | succ n ih =>
    have hrange : List.range' 1 (n + 1) = List.range' 1 n ++ [n + 1] := by
      rw [List.range'_concat]
      simp [Nat.add_comm]
    have hpage : pageOf size l (n + 1) = (l.drop (n * size)).take size := by simp [pageOf]
    rw [hrange, List.flatMap_append, ih, List.flatMap_singleton, hpage, Nat.add_mul, Nat.one_mul, List.take_add]

theorem paginates_pageOf (hsize : 1 ≤ size) (l : List α) : Paginates size l (pageOf size l) where
  complete := by
    rw [flatMap_pageOf]
    exact List.take_of_length_le (le_pageCount_mul hsize l.length)
  full := by
    intro number hnumber h
    have hrows := (lt_pageCount_iff hsize).1 h
    have hsplit : (number - 1) * size + size = number * size := by
      rw [← Nat.succ_mul]
      congr 1
      omega
    rw [length_pageOf]
    omega
  last := by
    intro h
    have hrows : (pageCount size l.length - 1) * size < l.length := (lt_pageCount_iff hsize).1 (by omega)
    rw [length_pageOf]
    omega
  beyond := by
    intro number h
    have hrows := le_pageCount_mul hsize l.length
    have hmul : pageCount size l.length * size ≤ (number - 1) * size := Nat.mul_le_mul_right _ (by omega)
    rw [← List.length_eq_zero_iff, length_pageOf]
    omega

end Pages

end CriteriaStore
