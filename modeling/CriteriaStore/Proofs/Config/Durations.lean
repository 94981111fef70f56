import CriteriaStore.Config.DurationText
import CriteriaStore.Proofs.Decimal.IntegerText

/-!
# The text of a duration reads back

A duration is written as a chain of amounts between blanks. Each amount is read back where it stands
(`Amount.read?_written`), so the whole chain is (`Amount.readAll?_chain`). Adding the amounts up then has to
stay in range at every step: units of seconds and more by the bound on durations, and the smaller ones because
what is left for them is less than a second (`Duration.lasting_lt_of_mem_amounts`).

`Duration.read?_render` is the result, for durations of any length.
-/

namespace CriteriaStore

/-! ### Units -/

namespace TimeUnit

theorem ofName?_label (n : Nat) (u : TimeUnit) : ofName? (u.label n) = some u := by
  cases u <;> simp only [label] <;> (try split) <;> rfl

theorem isLetter_of_mem_label {n : Nat} {u : TimeUnit} {c : Char} (h : c ∈ (u.label n).toList) :
    Amount.isLetter c = true := by
  have hall : (u.label n).toList.all Amount.isLetter = true := by
    cases u <;> simp only [label] <;> (try split) <;> decide
  exact List.all_eq_true.mp hall c h

/-- A label starts with a letter, which no number contains. -/
theorem exists_label_eq_cons (n : Nat) (u : TimeUnit) :
    ∃ c cs, (u.label n).toList = c :: cs ∧ Amount.isNumeral c = false ∧ c ≠ '.' := by
  cases u <;> simp only [label] <;> (try split) <;> exact ⟨_, _, rfl, by decide, by decide⟩

theorem grains_mul (u : TimeUnit) : u.grains u.grain * u.grain.nanoseconds = u.nanoseconds := by
  cases u <;> rfl

/-! ### The greedy division -/

theorem lasting_le_of_mem_divide {us : List TimeUnit} {n : Nat} {a : Nat × TimeUnit} (h : a ∈ divide us n) :
    lasting a ≤ n := by
  induction us generalizing n with
  | nil => simp [divide] at h
  | cons u us ih =>
    rcases List.mem_cons.mp h with rfl | h
    · exact Nat.div_mul_le_self n u.nanoseconds
    · exact Nat.le_trans (ih h) (Nat.mod_le n u.nanoseconds)

theorem mem_divide_append {us vs : List TimeUnit} {n : Nat} {a : Nat × TimeUnit} (h : a ∈ divide (us ++ vs) n) :
    a.2 ∈ us ∨ ∃ m, a ∈ divide vs m := by
  induction us generalizing n with
  | nil => exact .inr ⟨n, h⟩
  | cons u us ih =>
    rcases List.mem_cons.mp h with rfl | h
    · exact .inl List.mem_cons_self
    · exact (ih h).imp_left (List.mem_cons_of_mem u)

theorem lasting_le_total {l : List (Nat × TimeUnit)} {a : Nat × TimeUnit} (h : a ∈ l) : lasting a ≤ total l := by
  induction l with
  | nil => simp at h
  | cons b l ih =>
    rcases List.mem_cons.mp h with rfl | h
    · exact Nat.le_add_right _ _
    · exact Nat.le_trans (ih h) (Nat.le_add_left _ _)

end TimeUnit

/-! ### Reading amounts -/

namespace Amount

/-- The text of an amount. -/
def written (a : Nat × TimeUnit) : List Char := (toString a.1 ++ a.2.label a.1).toList

/-- An amount without a fraction. -/
def ofWhole (a : Nat × TimeUnit) : Amount := ⟨a.1, none, a.2⟩

theorem isBlank_of_isDigit {c : Char} (h : c.isDigit = true) : Text.isBlank c = false := by
  have hrange := Decimal.toNat_of_isDigit h
  simp only [Text.isBlank, Bool.or_eq_false_iff, Bool.and_eq_false_iff, decide_eq_false_iff_not, beq_eq_false_iff_ne]
  omega

/-- The text of an amount is a digit, more digits, and the label of the unit. -/
theorem exists_written_eq (a : Nat × TimeUnit) :
    ∃ d ds, written a = d :: ds ++ (a.2.label a.1).toList ∧ (∀ c ∈ d :: ds, c.isDigit = true)
      ∧ Decimal.natOfDigits (d :: ds) = a.1 := by
  cases h : Nat.toDigits 10 a.1 with
  | nil => exact absurd h Nat.toDigits_ne_nil
  | cons d ds =>
    refine ⟨d, ds, ?_, ?_, ?_⟩
    · rw [written, String.toList_append, ← h]
      exact congrArg (· ++ _) Nat.toList_repr
    · rw [← h]
      exact fun c hc => Nat.isDigit_of_mem_toDigits (by decide) (by decide) hc
    · rw [← h, Decimal.natOfDigits_toDigits]

/-- An amount is read back from the start of a text in which no letter follows it. -/
theorem read?_written {a : Nat × TimeUnit} {rest : List Char} (ha : a.1 < UInt64.size)
    (hrest : ∀ c ∈ rest.head?, isLetter c = false) : read? (written a ++ rest) = some (ofWhole a, rest) := by
  obtain ⟨d, ds, hwritten, hdigits, hvalue⟩ := exists_written_eq a
  obtain ⟨l, ls, hlabel, hl, hpoint⟩ := TimeUnit.exists_label_eq_cons a.1 a.2
  have hd : d.isDigit = true := hdigits d List.mem_cons_self
  have hnumeral : ∀ c ∈ ds, isNumeral c = true := fun c hc => by
    simp [isNumeral, hdigits c (List.mem_cons_of_mem d hc)]
  have htake : (ds ++ l :: (ls ++ rest)).takeWhile isNumeral = ds := by
    rw [List.takeWhile_append_of_pos hnumeral, List.takeWhile_cons_of_neg (by simp [hl]), List.append_nil]
  have hdrop : (ds ++ l :: (ls ++ rest)).dropWhile isNumeral = l :: (ls ++ rest) := by
    rw [List.dropWhile_append_of_pos hnumeral, List.dropWhile_cons_of_neg (by simp [hl])]
  have hfilter : digits (d :: ds) = d :: ds := List.filter_eq_self.mpr hdigits
  have hsplit : splitFraction? (l :: (ls ++ rest)) = some (none, l :: (ls ++ rest)) := by
    unfold splitFraction?
    split
    · rename_i he
      exact absurd (List.cons.inj he).1 hpoint
    · rfl
  have hletters : ∀ c ∈ l :: ls, isLetter c = true := fun c hc => TimeUnit.isLetter_of_mem_label (hlabel ▸ hc)
  have hname : (l :: (ls ++ rest)).takeWhile isLetter = l :: ls := by
    rw [← List.cons_append, List.takeWhile_append_of_pos hletters]
    cases rest with
    | nil => simp
    | cons c cs => simp [hrest c rfl]
  have hafter : (l :: (ls ++ rest)).dropWhile isLetter = rest := by
    rw [← List.cons_append, List.dropWhile_append_of_pos hletters]
    cases rest with
    | nil => rfl
    | cons c cs => simp [hrest c rfl]
  have hunit : TimeUnit.ofName? (String.ofList (l :: ls)) = some a.2 := by
    rw [← hlabel, String.ofList_toList, TimeUnit.ofName?_label]
  have hword : word? a.1 = some a.1 := if_pos ha
  rw [hwritten, hlabel]
  simp only [List.cons_append, List.append_assoc, read?, hd, if_true, htake, hdrop, hfilter, hvalue, hword, hsplit,
    hname, hafter, hunit, ofWhole]

/-- One step of reading, from the first character that is no blank. -/
theorem readAll?_eq (cs : List Char) :
    readAll? cs = if (cs.dropWhile Text.isBlank).isEmpty then some []
      else (read? (cs.dropWhile Text.isBlank)).bind fun p => (readAll? p.2).map (p.1 :: ·) := by
  rw [readAll?]
  split
  · rename_i he
    simp [he]
  · rename_i c more he
    split
    · rename_i h
      simp [he, h]
    · rename_i h
      simp [he, h]

theorem readAll?_blank_cons (cs : List Char) : readAll? (' ' :: cs) = readAll? cs := by
  rw [readAll?_eq (' ' :: cs), readAll?_eq cs, List.dropWhile_cons_of_pos (by decide)]

theorem readAll?_written_append {a : Nat × TimeUnit} {rest : List Char} (ha : a.1 < UInt64.size)
    (hrest : ∀ c ∈ rest.head?, isLetter c = false) :
    readAll? (written a ++ rest) = (readAll? rest).map (ofWhole a :: ·) := by
  obtain ⟨d, ds, hwritten, hdigits, -⟩ := exists_written_eq a
  have hd := isBlank_of_isDigit (hdigits d List.mem_cons_self)
  have hstart : (written a ++ rest).dropWhile Text.isBlank = written a ++ rest := by
    rw [hwritten, List.cons_append, List.cons_append, List.dropWhile_cons_of_neg (by simp [hd])]
  have hne : (written a ++ rest).isEmpty = false := by simp [hwritten]
  rw [readAll?_eq, hstart, hne, read?_written ha hrest]
  rfl

/-- Amounts between blanks are read back. -/
theorem readAll?_chain {l : List (Nat × TimeUnit)} (hword : ∀ a ∈ l, a.1 < UInt64.size) :
    readAll? ([' '].intercalate (l.map written)) = some (l.map ofWhole) := by
  induction l with
  | nil => simp [readAll?_eq]
  | cons a l ih =>
    have ha := hword a List.mem_cons_self
    have ih := ih fun b hb => hword b (List.mem_cons_of_mem a hb)
    cases l with
    | nil =>
      have hlast : readAll? (written a ++ []) = (readAll? []).map (ofWhole a :: ·) :=
        readAll?_written_append ha (by simp)
      simpa [readAll?_eq []] using hlast
    | cons b l =>
      rw [List.map_cons, List.map_cons, List.intercalate_cons_cons, List.append_assoc,
        readAll?_written_append ha (by simp; decide), List.cons_append, List.nil_append, readAll?_blank_cons,
        ← List.map_cons, ih]
      rfl

end Amount

/-! ### Adding amounts up -/

namespace Duration

theorem subsecond_lt (d : Duration) : d.subsecond < 1_000_000_000 := Nat.mod_lt _ (by decide)

/-- An amount that keeps the duration in range is added; one that is counted in nanoseconds must be less than a
second. -/
theorem addAmount?_ofWhole {d e : Duration} {a : Nat × TimeUnit}
    (he : e.nanoseconds = d.nanoseconds + TimeUnit.lasting a)
    (hfine : a.2.grain = .nanosecond → TimeUnit.lasting a < 1_000_000_000) :
    d.addAmount? (Amount.ofWhole a) = some e := by
  obtain ⟨n, u⟩ := a
  have hbound := e.bound
  have hsub := d.subsecond_lt
  have hlasting : n * u.grains u.grain * u.grain.nanoseconds = TimeUnit.lasting (n, u) := by
    rw [Nat.mul_assoc, u.grains_mul]
    rfl
  have hsum : ofNanoseconds? (d.nanoseconds + TimeUnit.lasting (n, u)) = some e := he ▸ ofNanoseconds?_nanoseconds e
  have hwhole : d.addWhole? (Amount.ofWhole (n, u)) = some e := by
    simp only [addWhole?, Amount.ofWhole]
    generalize n * u.grains u.grain = k at hlasting
    cases hg : u.grain with
    | nanosecond =>
      rw [hg, Grain.nanoseconds, Nat.mul_one] at hlasting
      have hlt : k < 1_000_000_000 := hlasting ▸ hfine hg
      have hword : Amount.word? k = some k := if_pos (Nat.lt_trans hlt (by decide))
      have hcarry : d.subsecond + k < UInt64.size := by
        simp only [UInt64.size]
        omega
      rw [hword, Option.bind_some, add?, if_pos hcarry, hlasting, hsum]
    | second =>
      rw [hg, Grain.nanoseconds] at hlasting
      have hword : Amount.word? k = some k := if_pos (by omega)
      rw [hword, Option.bind_some, add?, hlasting, hsum]
  rw [addAmount?, hwhole]
  rfl

theorem foldlM_addAmount? {l : List (Nat × TimeUnit)} {d e : Duration}
    (he : e.nanoseconds = d.nanoseconds + TimeUnit.total l)
    (hfine : ∀ a ∈ l, a.2.grain = .nanosecond → TimeUnit.lasting a < 1_000_000_000) :
    (l.map Amount.ofWhole).foldlM addAmount? d = some e := by
  induction l generalizing d with
  | nil =>
    obtain ⟨m, _⟩ := d
    obtain ⟨n, _⟩ := e
    obtain rfl : n = m := he
    rfl
  | cons a l ih =>
    rw [TimeUnit.total] at he
    have hbound : d.nanoseconds + TimeUnit.lasting a < UInt64.size * 1_000_000_000 := by
      have := e.bound
      omega
    have hstep : d.addAmount? (Amount.ofWhole a) = some ⟨_, hbound⟩ :=
      addAmount?_ofWhole rfl (hfine a List.mem_cons_self)
    rw [List.map_cons, List.foldlM_cons, hstep]
    exact ih (by rw [he, Nat.add_assoc]) fun b hb => hfine b (List.mem_cons_of_mem a hb)

/-- The amounts of a duration that are counted in nanoseconds stand behind its seconds, so they last less than one. -/
theorem lasting_lt_of_mem_amounts {d : Duration} {a : Nat × TimeUnit} (ha : a ∈ d.amounts)
    (hfine : a.2.grain = .nanosecond) : TimeUnit.lasting a < 1_000_000_000 := by
  have hmem : a ∈ TimeUnit.divide ([.year, .month, .day, .hour, .minute]
      ++ [.second, .millisecond, .microsecond, .nanosecond]) d.nanoseconds := (List.mem_filter.mp ha).1
  rcases TimeUnit.mem_divide_append hmem with hlong | ⟨m, hshort⟩
  · have hall : ∀ u ∈ [TimeUnit.year, .month, .day, .hour, .minute], u.grain = .second := by decide
    rw [hall a.2 hlong] at hfine
    exact absurd hfine (by decide)
  · rcases List.mem_cons.mp hshort with rfl | hrest
    · exact absurd hfine Grain.noConfusion
    · exact Nat.lt_of_le_of_lt (TimeUnit.lasting_le_of_mem_divide hrest) (Nat.mod_lt m (by decide))

theorem lt_size_of_mem_amounts {d : Duration} {a : Nat × TimeUnit} (ha : a ∈ d.amounts) : a.1 < UInt64.size := by
  have hle : TimeUnit.lasting a ≤ d.nanoseconds := d.total_amounts ▸ TimeUnit.lasting_le_total ha
  have hbound := d.bound
  cases hg : a.2.grain with
  | nanosecond =>
    have hlt := lasting_lt_of_mem_amounts ha hg
    have hunit : a.1 * 1 ≤ TimeUnit.lasting a := Nat.mul_le_mul_left a.1 (by cases a.2 <;> decide)
    simp only [UInt64.size] at *
    omega
  | second =>
    have hunit : a.1 * 1_000_000_000 ≤ TimeUnit.lasting a :=
      Nat.mul_le_mul_left a.1 (by revert hg; cases a.2 <;> decide)
    omega

/-- The amounts that are written; no time at all is written as no seconds. -/
def spelled (d : Duration) : List (Nat × TimeUnit) := if d.amounts.isEmpty then [(0, .second)] else d.amounts

theorem render_eq (d : Duration) : d.render.toList = [' '].intercalate (d.spelled.map Amount.written) := by
  unfold render spelled
  split
  · rfl
  · rw [String.toList_intercalate, List.map_map]
    rfl

theorem total_spelled (d : Duration) : TimeUnit.total d.spelled = d.nanoseconds := by
  unfold spelled
  split
  · rename_i h
    rw [← total_amounts d, List.isEmpty_iff.mp h]
    rfl
  · exact total_amounts d

theorem exists_spelled_eq_cons (d : Duration) : ∃ a l, d.spelled = a :: l := by
  unfold spelled
  split
  · exact ⟨_, _, rfl⟩
  · rename_i h
    rw [List.isEmpty_iff] at h
    exact List.exists_cons_of_ne_nil h

/-- A duration reads back from its text. -/
theorem read?_render (d : Duration) : read? d.render = some d := by
  have hmem : ∀ a ∈ d.spelled, a = (0, .second) ∨ a ∈ d.amounts := fun a ha => by
    unfold spelled at ha
    split at ha
    · exact .inl (List.mem_singleton.mp ha)
    · exact .inr ha
  have hword : ∀ a ∈ d.spelled, a.1 < UInt64.size := fun a ha => by
    rcases hmem a ha with rfl | ha
    · decide
    · exact lt_size_of_mem_amounts ha
  have hfine : ∀ a ∈ d.spelled, a.2.grain = .nanosecond → TimeUnit.lasting a < 1_000_000_000 := fun a ha hg => by
    rcases hmem a ha with rfl | ha
    · exact absurd hg (by decide)
    · exact lasting_lt_of_mem_amounts ha hg
  have hread := Amount.readAll?_chain hword
  rw [← render_eq] at hread
  -- A chain of amounts is never the lone zero, which is no amount.
  have hzero : d.render ≠ "0" := fun h => by
    have hnone : Amount.readAll? "0".toList = none := by
      rw [Amount.readAll?_eq]
      rfl
    rw [h, hnone] at hread
    exact absurd hread (by simp)
  have hsum : (d.spelled.map Amount.ofWhole).foldlM addAmount? zero = some d :=
    foldlM_addAmount? (by rw [total_spelled]; exact (Nat.zero_add _).symm) hfine
  obtain ⟨a, l, hs⟩ := d.exists_spelled_eq_cons
  rw [hs] at hread hsum
  rw [read?, if_neg hzero, hread]
  exact hsum

end Duration

end CriteriaStore
