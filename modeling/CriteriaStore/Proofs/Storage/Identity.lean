import CriteriaStore.Proofs.Decimal.IntegerText
import CriteriaStore.Storage.Evaluation

/-!
# Identities

A column of integers identifies records by integers, a column of texts by texts (`ColumnType.Owns`). Such an identity
passes through storage unchanged: it is bound, stored, compared and read back as itself, and two identities of one
column are the same cell, or have the same key text, only when they are equal.
-/

namespace CriteriaStore.Storage

/-- Whether a scalar is an identity of the kind that a column of the type holds. -/
def ColumnType.Owns : ColumnType → Scalar → Prop
  | integer, .int _ => True
  | text, .text _ => True
  | _, _ => False

namespace Cell

variable {a b c : Cell}

/-- Cells stand at the same place when they are of one rank, with the same number and the same text. -/
theorem same_iff : a.same b ↔ a.rank = b.rank ∧ a.units = b.units ∧ a.content = b.content := by
  unfold same order
  simp

theorem same_symm (h : a.same b) : b.same a := by
  rw [same_iff] at h ⊢
  exact ⟨h.1.symm, h.2.1.symm, h.2.2.symm⟩

theorem same_trans (hab : a.same b) (hbc : b.same c) : a.same c := by
  rw [same_iff] at hab hbc ⊢
  exact ⟨hab.1.trans hbc.1, hab.2.1.trans hbc.2.1, hab.2.2.trans hbc.2.2⟩

theorem isNull_of_same (h : a.same b) : a.isNull = b.isNull := by
  rw [same_iff] at h
  cases a <;> cases b <;> simp_all [rank, isNull]

/-- Cells compare as equal when both hold something and they stand at the same place. -/
theorem compare_eq_yes : a.compare .eq b = .yes ↔ a.isNull = false ∧ b.isNull = false ∧ a.same b := by
  unfold Cell.compare Cell.same
  cases a.isNull with
  | true => simp
  | false =>
    cases b.isNull with
    | true => simp
    | false => cases a.order b <;> simp [relates, Truth.ofBool]

@[simp] theorem same_int {a b : Int64} : (int a).same (int b) ↔ a = b := by
  have hone : (0 : Int) < Decimal.unitsOfOne := by decide +kernel
  have hunits : (int a).units = (int b).units ↔ a = b := by
    show a.toInt * Decimal.unitsOfOne = b.toInt * Decimal.unitsOfOne ↔ a = b
    rw [Int.mul_eq_mul_right_iff (by omega), Int64.toInt_inj]
  rw [same_iff, hunits]
  simp [rank, content]

@[simp] theorem same_text {a b : String} : (text a).same (text b) ↔ a = b := by
  rw [same_iff]
  simp [rank, content, units]

end Cell

namespace ColumnType

variable {t : ColumnType} {a b v : Scalar}

theorem Owns.cases (h : t.Owns v) : (t = integer ∧ ∃ n, v = .int n) ∨ (t = text ∧ ∃ s, v = .text s) := by
  cases t <;> cases v <;> simp_all [Owns]

theorem Owns.isNull (h : t.Owns v) : v.isNull = false := by
  obtain ⟨-, n, rfl⟩ | ⟨-, s, rfl⟩ := h.cases <;> rfl

theorem Owns.isNull_ofScalar (h : t.Owns v) : (Cell.ofScalar v).isNull = false := by
  obtain ⟨-, n, rfl⟩ | ⟨-, s, rfl⟩ := h.cases <;> rfl

theorem Owns.term (h : t.Owns v) : Sql.Term.ofScalar v = .bound v := by
  obtain ⟨-, n, rfl⟩ | ⟨-, s, rfl⟩ := h.cases <;> rfl

theorem Owns.store (h : t.Owns v) : t.store (Cell.ofScalar v) = Cell.ofScalar v := by
  obtain ⟨rfl, n, rfl⟩ | ⟨rfl, s, rfl⟩ := h.cases <;> rfl

theorem Owns.comparand (h : t.Owns v) : t.comparand (Cell.ofScalar v) = Cell.ofScalar v := by
  obtain ⟨rfl, n, rfl⟩ | ⟨rfl, s, rfl⟩ := h.cases <;> rfl

theorem Owns.read? (h : t.Owns v) : t.read? (Cell.ofScalar v) = some v := by
  obtain ⟨rfl, n, rfl⟩ | ⟨rfl, s, rfl⟩ := h.cases <;> rfl

theorem Owns.same_iff (ha : t.Owns a) (hb : t.Owns b) : (Cell.ofScalar a).same (Cell.ofScalar b) ↔ a = b := by
  obtain ⟨rfl, n, rfl⟩ | ⟨rfl, s, rfl⟩ := ha.cases <;>
    obtain ⟨ht, m, rfl⟩ | ⟨ht, u, rfl⟩ := hb.cases <;>
    simp_all [Cell.ofScalar]

theorem Owns.ofScalar_inj (ha : t.Owns a) (hb : t.Owns b) : Cell.ofScalar a = Cell.ofScalar b ↔ a = b := by
  constructor
  · intro h
    rw [← Owns.same_iff ha hb, h, Owns.same_iff hb hb]
  · rintro rfl
    rfl

/-- Key texts tell the identities of one column apart. -/
theorem Owns.keyText_inj (ha : t.Owns a) (hb : t.Owns b) : a.keyText = b.keyText ↔ a = b := by
  obtain ⟨rfl, n, rfl⟩ | ⟨rfl, s, rfl⟩ := ha.cases <;> obtain ⟨ht, m, rfl⟩ | ⟨ht, u, rfl⟩ := hb.cases
  · show toString n.toInt = toString m.toInt ↔ _
    rw [Decimal.toString_toInt_inj, Scalar.int.injEq]
  · simp at ht
  · simp at ht
  · simp [Scalar.keyText]

end ColumnType

end CriteriaStore.Storage
