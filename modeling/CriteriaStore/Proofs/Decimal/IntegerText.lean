import CriteriaStore.Scalar

/-!
# Integers as text

The decimal text of a signed word reads back as the word (`readInt64?_toString`), so different words have different
texts (`toString_toInt_inj`).
-/

namespace CriteriaStore.Decimal

theorem toNat_of_isDigit {c : Char} (h : c.isDigit) : 48 ≤ c.toNat ∧ c.toNat ≤ 57 := by
  simpa [Char.isDigit, UInt32.le_iff_toNat_le] using h

theorem natOfDigits_toDigits (n : Nat) : natOfDigits (Nat.toDigits 10 n) = n :=
  Nat.ofDigitChars_ten_toDigits

/-- The decimal digits of a number read back as the number. -/
theorem readNat?_toDigits (n : Nat) : readNat? (Nat.toDigits 10 n) = some n := by
  have hne : (Nat.toDigits 10 n).isEmpty = false := by
    rw [List.isEmpty_eq_false_iff]
    exact Nat.toDigits_ne_nil
  have hall : (Nat.toDigits 10 n).all Char.isDigit = true := by
    rw [List.all_eq_true]
    exact fun c hc => Nat.isDigit_of_mem_toDigits (by decide) (by decide) hc
  simp [readNat?, hne, hall, natOfDigits_toDigits]

private theorem splitSign_toDigits (n : Nat) : splitSign (Nat.toDigits 10 n) = (false, Nat.toDigits 10 n) := by
  cases h : Nat.toDigits 10 n with
  | nil => rfl
  | cons c cs =>
    have hc : c.isDigit := Nat.isDigit_of_mem_toDigits (by decide) (by decide) (h ▸ List.mem_cons_self)
    have hminus : c ≠ '-' := fun he => by subst he; exact absurd hc (by decide)
    have hplus : c ≠ '+' := fun he => by subst he; exact absurd hc (by decide)
    unfold splitSign
    split
    · rename_i he
      exact absurd (List.cons.inj he).1 hminus
    · rename_i he
      exact absurd (List.cons.inj he).1 hplus
    · rfl

private theorem readInt64?_of_digits (negative : Bool) {s : String} {ds : List Char} {m : Nat} {n : Int64}
    (hs : splitSign s.toList = (negative, ds)) (hds : readNat? ds = some m)
    (hn : (if negative then -(m : Int) else m) = n.toInt) : readInt64? s = some n := by
  unfold readInt64?
  rw [hs]
  simp only [hds, Option.bind_eq_bind, Option.bind_some, hn]
  rw [if_pos ⟨n.le_toInt, n.toInt_lt⟩, Int64.ofInt_toInt]

/-- The text of a signed word reads back as the word. -/
theorem readInt64?_toString (n : Int64) : readInt64? (toString n.toInt) = some n := by
  rw [Int.toString_eq_repr, Int.repr_eq_if]
  split
  · rename_i h
    refine readInt64?_of_digits false ?_ (readNat?_toDigits n.toInt.toNat) ?_
    · rw [Nat.toList_repr, splitSign_toDigits]
    · exact Int.toNat_of_nonneg h
  · rename_i h
    refine readInt64?_of_digits true ?_ (readNat?_toDigits (-n.toInt).toNat) ?_
    · rw [String.toList_append, Nat.toList_repr]
      rfl
    · show -(((-n.toInt).toNat : Nat) : Int) = n.toInt
      omega

/-- Different words have different texts. -/
theorem toString_toInt_inj {a b : Int64} : toString a.toInt = toString b.toInt ↔ a = b := by
  constructor
  · intro h
    have := readInt64?_toString a
    rw [h, readInt64?_toString] at this
    exact (Option.some.inj this).symm
  · rintro rfl
    rfl

end CriteriaStore.Decimal
