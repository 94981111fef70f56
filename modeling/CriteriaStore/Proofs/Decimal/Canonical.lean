import CriteriaStore.Proofs.Decimal.IntegerText
import Mathlib.Data.List.Basic
import Mathlib.Data.List.Induction

/-!
# Canonical numerals

The numerals of integers that have no plus sign, no leading zero and no minus before a zero (`Decimal.Canonical`). Every
integer has one of them, the text in which it is shown, and no other (`Decimal.toString_eq_iff_canonical`).

Identities are compared by text (`Scalar.keyText`). So an integer and a text are the same identity exactly when the text is
the canonical numeral of the integer, and a text that merely reads as the integer is another one
(`Scalar.keyText_separates`).
-/

namespace CriteriaStore

namespace Decimal

/-- Whether some characters are the decimal digits of a number, without a zero before them. -/
structure IsDigits (ds : List Char) (n : Nat) : Prop where
  ne_nil : ds ≠ []
  isDigit : ∀ c ∈ ds, c.isDigit
  /-- A zero is not followed by other digits. -/
  eq_zero : ds.head? = some '0' → ds = ['0']
  value : natOfDigits ds = n

/-- The numerals of integers without plus sign, leading zero and minus before a zero. -/
inductive Canonical : List Char → Int → Prop
  | natural {ds : List Char} {n : Nat} (h : IsDigits ds n) : Canonical ds n
  | negative {ds : List Char} {n : Nat} (h : IsDigits ds n) (hn : n ≠ 0) : Canonical ('-' :: ds) (-n)

/-! ### Digits of a number -/

theorem natOfDigits_concat (ds : List Char) (d : Char) :
    natOfDigits (ds ++ [d]) = 10 * natOfDigits ds + (d.toNat - 48) :=
  List.foldl_append

/-- A digit is the one of its value. -/
private theorem digitChar_sub {c : Char} (h : c.isDigit) : Nat.digitChar (c.toNat - 48) = c := by
  have hrange := toNat_of_isDigit h
  apply Char.toNat_inj.1
  rw [Nat.toNat_digitChar_of_lt_ten (by omega)]
  omega

theorem isDigits_toDigits (n : Nat) : IsDigits (Nat.toDigits 10 n) n := by
  refine ⟨Nat.toDigits_ne_nil, ?_, ?_, natOfDigits_toDigits n⟩
  · exact fun c hc => Nat.isDigit_of_mem_toDigits (by decide) (by decide) hc
  · -- the first digit of a large number is the first digit of a tenth of it
    induction n using Nat.strongRecOn with
    | ind n ih =>
      intro hhead
      by_cases hn : n < 10
      · rw [Nat.toDigits_of_lt_base hn] at hhead ⊢
        exact congrArg (· :: []) (Option.some.inj hhead)
      · have hsplit := Nat.toDigits_of_base_le (b := 10) (n := n) (by decide) (by omega)
        rw [hsplit, List.head?_append_of_ne_nil _ Nat.toDigits_ne_nil] at hhead
        have htenth := ih (n / 10) (by omega) hhead
        have hvalue := natOfDigits_toDigits (n / 10)
        rw [htenth] at hvalue
        have hzero : natOfDigits ['0'] = 0 := rfl
        omega

/-- A number has no other digits than the ones in which it is written. -/
theorem IsDigits.eq_toDigits {ds : List Char} {n : Nat} (h : IsDigits ds n) : ds = Nat.toDigits 10 n := by
  -- from the last digit, as digits are written
  induction ds using List.reverseRecOn generalizing n with
  | nil => exact absurd rfl h.ne_nil
  | append_singleton ds d ih =>
    obtain ⟨-, hdigits, hzero, rfl⟩ := h
    have hd : d.isDigit := hdigits d (List.mem_append_right _ List.mem_cons_self)
    have hrange := toNat_of_isDigit hd
    have hlast : Nat.toDigits 10 (d.toNat - 48) = [d] := by
      rw [Nat.toDigits_of_lt_base (by omega), digitChar_sub hd]
    rw [natOfDigits_concat]
    by_cases hds : ds = []
    · subst hds
      show [d] = Nat.toDigits 10 (10 * 0 + (d.toNat - 48))
      rw [Nat.mul_zero, Nat.zero_add, hlast]
    · have hhead : ds.head? ≠ some '0' := by
        intro hhead
        have hsingle := hzero (by rw [List.head?_append_of_ne_nil _ hds, hhead])
        have hlength := congrArg List.length hsingle
        rw [List.length_append, List.length_singleton, List.length_singleton] at hlength
        exact hds (List.eq_nil_of_length_eq_zero (by omega))
      have hfront := ih ⟨hds, fun c hc => hdigits c (List.mem_append_left _ hc), fun h0 => absurd h0 hhead, rfl⟩
      have hpositive : 0 < natOfDigits ds := by
        refine Nat.pos_of_ne_zero fun h0 => hhead ?_
        rw [hfront, h0, Nat.toDigits_zero]
        rfl
      have hjoined := Nat.toDigits_append_toDigits (b := 10) (d := d.toNat - 48) (by decide) hpositive (by omega)
      rw [← hjoined, ← hfront, hlast]

/-! ### Numerals of an integer -/

/-- The text of an integer is its only canonical numeral. -/
theorem toString_eq_iff_canonical {n : Int} {s : String} : toString n = s ↔ Canonical s.toList n := by
  rw [Int.toString_eq_repr, Int.repr_eq_if]
  constructor
  · rintro rfl
    split
    · next hn =>
      rw [Nat.toList_repr, ← Int.toNat_of_nonneg hn, Int.toNat_natCast]
      exact .natural (isDigits_toDigits n.toNat)
    · next hn =>
      have hnegative := Canonical.negative (isDigits_toDigits (-n).toNat) (by omega)
      rw [Int.toNat_of_nonneg (by omega), Int.neg_neg] at hnegative
      rw [String.toList_append, Nat.toList_repr]
      exact hnegative
  · intro h
    apply String.toList_inj.1
    generalize s.toList = cs at h
    cases h with
    | @natural _ n h =>
      rw [if_pos (Int.natCast_nonneg n), Nat.toList_repr, Int.toNat_natCast, h.eq_toDigits]
    | @negative ds n h hn =>
      rw [if_neg (by omega), String.toList_append, Nat.toList_repr, Int.neg_neg, Int.toNat_natCast, ← h.eq_toDigits]
      rfl

end Decimal

namespace Scalar

/-- Identities are told apart by their key texts: two integers, and two texts, have the same one only if they are the same,
and an integer and a text exactly if the text is the canonical numeral of the integer. The key text of an integer reads back
as the integer. -/
theorem keyText_separates :
    (∀ a b : Int64, (int a).keyText = (int b).keyText ↔ a = b) ∧
      (∀ s t : String, (text s).keyText = (text t).keyText ↔ s = t) ∧
      (∀ (a : Int64) (s : String), (int a).keyText = (text s).keyText ↔ Decimal.Canonical s.toList a.toInt) ∧
      ∀ a : Int64, (text (int a).keyText).toInt64? = some a := by
  refine ⟨?_, ?_, ?_, ?_⟩
  · exact fun a b => Decimal.toString_toInt_inj
  · exact fun s t => Iff.rfl
  · exact fun a s => Decimal.toString_eq_iff_canonical
  · exact fun a => Decimal.readInt64?_toString a

/-- The smallest word, and texts that read as seven but are other identities. -/
example : (text "-9223372036854775808").toInt64? = some Int64.minValue ∧
    (int Int64.minValue).keyText = "-9223372036854775808" ∧
    ∀ s ∈ ["+7", "07"], (text s).toInt64? = some 7 ∧ (text s).keyText ≠ (int 7).keyText := by
  decide +kernel

end Scalar

end CriteriaStore
