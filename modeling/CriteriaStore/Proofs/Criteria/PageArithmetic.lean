import CriteriaStore.Criteria.Decoding
import CriteriaStore.Proofs.Criteria.Paging
import Mathlib.Algebra.Group.Nat.Defs
import Mathlib.Order.Bounds.Defs

/-!
# The arithmetic of page requests

A request is created exactly when its page, were it full, would end within the positive signed words. Setting its parts
keeps the page, and decoding creates it, so whatever request there is has its numbers in range (`Reached.inRange`). Then
the rows before it and its last row are computed in words as in integers, and so is the number of pages
(`arithmetic_exact`).
-/

namespace CriteriaStore.PageRequest

/-- Whether a page of some size, counted from one, would end within the positive signed words if it were full. -/
def InRange (number size : UInt64) : Prop :=
  1 ≤ number.toNat ∧ 1 ≤ size.toNat ∧ number.toNat * size.toNat ≤ 2 ^ 63 - 1

theorem accepts_iff_inRange {number size : UInt64} : accepts number size ↔ InRange number size := by
  have hmax : maxRow.toNat = 2 ^ 63 - 1 := rfl
  rw [accepts_iff, hmax]
  rfl

variable {number size : UInt64} {r : PageRequest}

/-! ### Requests that can be made -/

theorem create_of_inRange (h : InRange number size) :
    ∃ r, create number size = .ok r ∧ r.number = number ∧ r.size = size :=
  ⟨_, dif_pos (accepts_iff_inRange.2 h), rfl, rfl⟩

theorem create_of_not_inRange (h : ¬InRange number size) : create number size = .error (.invalidPage number size) :=
  dif_neg fun haccepts => h (accepts_iff_inRange.1 haccepts)

theorem inRange_of_create (h : create number size = .ok r) : r.number = number ∧ r.size = size ∧ InRange number size := by
  by_cases hrange : InRange number size
  · obtain ⟨r', hr', hnumber, hsize⟩ := create_of_inRange hrange
    rw [hr'] at h
    cases h
    exact ⟨hnumber, hsize, hrange⟩
  · rw [create_of_not_inRange hrange] at h
    cases h

/-- What is decoded is created from the two numbers first, and then has its parts filled in. -/
theorem inRange_of_decode {v : Json} (h : decode v = .ok r) : InRange r.number r.size := by
  unfold decode at h
  dsimp only at h
  split at h
  · cases h
  · rename_i number size sort filter fields distinct _
    cases hcreate : create number size with
    | error e => simp [hcreate] at h
    | ok created =>
      obtain ⟨hnumber, hsize, hrange⟩ := inRange_of_create hcreate
      simp only [hcreate, Except.ok.injEq] at h
      subst h
      change InRange created.number created.size
      rw [hnumber, hsize]
      exact hrange

theorem set_number (r : PageRequest) (p : Part) : (r.set p).number = r.number := by
  cases p <;> rfl

theorem set_size (r : PageRequest) (p : Part) : (r.set p).size = r.size := by
  cases p <;> rfl

/-- The requests that are made by creating or decoding one and setting its parts. -/
inductive Reached : PageRequest → Prop
  | create {number size : UInt64} {r : PageRequest} (h : PageRequest.create number size = .ok r) : Reached r
  | decode {v : Json} {r : PageRequest} (h : PageRequest.decode v = .ok r) : Reached r
  | set {r : PageRequest} (h : Reached r) (p : Part) : Reached (r.set p)

theorem Reached.inRange (h : Reached r) : InRange r.number r.size := by
  induction h with
  | create h =>
    obtain ⟨hnumber, hsize, hrange⟩ := inRange_of_create h
    rw [hnumber, hsize]
    exact hrange
  | decode h => exact inRange_of_decode h
  | set _ p ih =>
    rw [set_number, set_size]
    exact ih

/-! ### Rows and pages -/

/-- The rows before a page, in integers: nothing is cut off at zero and nothing wraps. -/
theorem cast_offset (r : PageRequest) (h : InRange r.number r.size) :
    (r.offset.toNat : Int) = ((r.number.toNat : Int) - 1) * r.size.toNat := by
  obtain ⟨hnumber, -, -⟩ := h
  rw [toNat_offset, Int.natCast_mul, Int.ofNat_sub hnumber, Int.natCast_one]

/-- The rows up to the end of a page. -/
theorem offset_add_size (r : PageRequest) (h : InRange r.number r.size) :
    r.offset.toNat + r.size.toNat = r.number.toNat * r.size.toNat := by
  obtain ⟨hnumber, -, -⟩ := h
  have hsplit : r.number.toNat - 1 + 1 = r.number.toNat := by omega
  rw [toNat_offset, ← Nat.succ_mul, Nat.succ_eq_add_one, hsplit]

/-- The pages of a result are as few as have room for it. -/
theorem isLeast_pages {α : Type} (h : InRange r.number r.size) (content : List α) (total : UInt64) :
    IsLeast {n : Nat | total.toNat ≤ n * r.size.toNat} (Page.of content total r).pages.toNat := by
  obtain ⟨-, hsize, -⟩ := h
  have hpages : (Page.of content total r).pages.toNat = pageCount r.size.toNat total.toNat := toNat_divCeil total hsize
  rw [hpages]
  constructor
  · exact le_pageCount_mul hsize total.toNat
  · intro n hn
    exact (pageCount_le_iff hsize).2 hn

/-- A request is created exactly when its numbers are in range, in exact arithmetic, and refused with both numbers
otherwise. Of every request that is created or decoded, with whatever parts set, the numbers are in range; the rows before
its page are the exact ones, and its last row is one that a signed word can tell. Its size is no zero, so pages can be
counted, and their number is the least that has room for all rows. -/
theorem arithmetic_exact :
    (∀ number size : UInt64,
      (InRange number size ↔ ∃ r, create number size = .ok r ∧ r.number = number ∧ r.size = size) ∧
        (¬InRange number size → create number size = .error (.invalidPage number size))) ∧
      ∀ r : PageRequest, Reached r →
        InRange r.number r.size ∧ (r.offset.toNat : Int) = ((r.number.toNat : Int) - 1) * r.size.toNat ∧
          r.offset.toNat + r.size.toNat ≤ 2 ^ 63 - 1 ∧ r.size ≠ 0 ∧
          ∀ (α : Type) (content : List α) (total : UInt64),
            IsLeast {n : Nat | total.toNat ≤ n * r.size.toNat} (Page.of content total r).pages.toNat := by
  constructor
  · intro number size
    refine ⟨⟨create_of_inRange, ?_⟩, create_of_not_inRange⟩
    rintro ⟨r, hr, -, -⟩
    exact (inRange_of_create hr).2.2
  · intro r hr
    have hrange := hr.inRange
    refine ⟨hrange, cast_offset r hrange, ?_, ?_, fun α => isLeast_pages hrange⟩
    · rw [offset_add_size r hrange]
      exact hrange.2.2
    · intro hzero
      have hsize : 1 ≤ r.size.toNat := hrange.2.1
      rw [hzero] at hsize
      exact absurd hsize (by decide)

/-- The last page of single rows that a signed word can number, with distinct values asked for, and the page after it. -/
theorem arithmetic_exact_at_largest_row :
    let r : PageRequest := { number := 9223372036854775807, size := 1, accepted := by decide }
    let distinct := r.set (.distinct (FieldSet.empty.add "name"))
    ¬InRange 9223372036854775808 1 ∧
      create 9223372036854775808 1 = .error (.invalidPage 9223372036854775808 1) ∧
        Reached distinct ∧ (distinct.offset.toNat : Int) = (9223372036854775807 - 1) * 1 ∧
          IsLeast {n : Nat | 3 ≤ n * 1} (Page.of ["x"] 3 distinct).pages.toNat := by
  intro r distinct
  have hbeyond : ¬InRange 9223372036854775808 1 := fun h => absurd h.2.2 (by decide)
  have hreached : Reached distinct := .set (.create (rfl : create 9223372036854775807 1 = .ok r)) _
  obtain ⟨-, hoffset, -, -, hpages⟩ := arithmetic_exact.2 distinct hreached
  exact ⟨hbeyond, (arithmetic_exact.1 _ _).2 hbeyond, hreached, hoffset, hpages String ["x"] 3⟩

end CriteriaStore.PageRequest
