import CriteriaStore.Sql.Compiling
import CriteriaStore.Storage.Pattern
import Mathlib.Data.List.TakeWhile

/-!
# What patterns match

The meaning of a written pattern, said without the list of its elements and without a search: `Like` is what is known of
patterns with an escaping backslash, for any folding of characters. Storage decides it under its own folding
(`likeText_iff`).

An escaped text is met literally at the beginning of what is left (`like_escapePattern`), so the pattern of a text at an
anchor finds that text there and nothing else (`like_pattern`). In storage a zero character ends the pattern, with what
the anchor puts behind it (`likeText_pattern`).
-/

namespace CriteriaStore

namespace Storage

variable {α : Type} {fold : Char → α} {c : Char} {p t : List Char}

/-- Whether a text is like a pattern: a percent sign stands for any text and an underscore for any character, a backslash
lets the next character stand for itself, and characters that stand for themselves are the same when they fold alike. -/
inductive Like (fold : Char → α) : List Char → List Char → Prop
  | nil : Like fold [] []
  | anyText {p t : List Char} (u : List Char) : Like fold p t → Like fold ('%' :: p) (u ++ t)
  | anyChar {p t : List Char} (d : Char) : Like fold p t → Like fold ('_' :: p) (d :: t)
  | escaped {p t : List Char} {c d : Char} : fold c = fold d → Like fold p t → Like fold ('\\' :: c :: p) (d :: t)
  | char {p t : List Char} {c d : Char} : c ≠ '%' → c ≠ '_' → c ≠ '\\' → fold c = fold d → Like fold p t →
      Like fold (c :: p) (d :: t)

/-! ### Patterns by their first element -/

theorem like_nil : Like fold [] t ↔ t = [] := by
  constructor
  · intro h
    cases h
    rfl
  · rintro rfl
    exact .nil

theorem like_anyText : Like fold ('%' :: p) t ↔ ∃ u v, t = u ++ v ∧ Like fold p v := by
  constructor
  · intro h
    cases h with
    | anyText u h => exact ⟨u, _, rfl, h⟩
    | char h => exact absurd rfl h
  · rintro ⟨u, v, rfl, h⟩
    exact .anyText u h

theorem like_anyChar : Like fold ('_' :: p) t ↔ ∃ d v, t = d :: v ∧ Like fold p v := by
  constructor
  · intro h
    cases h with
    | anyChar d h => exact ⟨d, _, rfl, h⟩
    | char _ h => exact absurd rfl h
  · rintro ⟨d, v, rfl, h⟩
    exact .anyChar d h

theorem like_escaped : Like fold ('\\' :: c :: p) t ↔ ∃ d v, t = d :: v ∧ fold c = fold d ∧ Like fold p v := by
  constructor
  · intro h
    cases h with
    | escaped hc h => exact ⟨_, _, rfl, hc, h⟩
    | char _ _ h => exact absurd rfl h
  · rintro ⟨d, v, rfl, hc, h⟩
    exact .escaped hc h

/-- Nothing is like a pattern that ends with the escape. -/
theorem not_like_never : ¬Like fold ['\\'] t := by
  intro h
  cases h with
  | char _ _ h => exact h rfl

theorem like_char (hany : c ≠ '%') (hone : c ≠ '_') (hesc : c ≠ '\\') :
    Like fold (c :: p) t ↔ ∃ d v, t = d :: v ∧ fold c = fold d ∧ Like fold p v := by
  constructor
  · intro h
    cases h with
    | anyText => exact absurd rfl hany
    | anyChar => exact absurd rfl hone
    | escaped => exact absurd rfl hesc
    | char _ _ _ hc h => exact ⟨_, _, rfl, hc, h⟩
  · rintro ⟨d, v, rfl, hc, h⟩
    exact .char hany hone hesc hc h

/-! ### The search -/

private theorem anySuffix_iff {test : List Char → Bool} : anySuffix test t ↔ ∃ u v, t = u ++ v ∧ test v := by
  induction t with
  | nil =>
    constructor
    · intro h
      exact ⟨[], [], rfl, h⟩
    · rintro ⟨u, v, he, h⟩
      obtain ⟨-, rfl⟩ := List.append_eq_nil_iff.1 he.symm
      exact h
  | cons c rest ih =>
    rw [anySuffix, Bool.or_eq_true, ih]
    constructor
    · rintro (h | ⟨u, v, rfl, h⟩)
      · exact ⟨[], c :: rest, rfl, h⟩
      · exact ⟨c :: u, v, rfl, h⟩
    · rintro ⟨u, v, he, h⟩
      cases u with
      | nil => exact .inl (by rwa [he])
      | cons d u => exact .inr ⟨u, v, (List.cons.inj he).2, h⟩

private theorem matchesItems_char {items : List PatternItem} :
    matchesItems (.char c :: items) t ↔ ∃ d v, t = d :: v ∧ folded c = folded d ∧ matchesItems items v := by
  cases t with
  | nil => simp [matchesItems]
  | cons d v => simp [matchesItems, and_assoc]

/-- The search through the elements of a pattern decides what the pattern means. -/
theorem matchesItems_iff : matchesItems (PatternItem.ofChars p) t ↔ Like folded p t := by
  induction p using PatternItem.ofChars.induct generalizing t with
  | case1 =>
    rw [like_nil]
    simp [PatternItem.ofChars, matchesItems]
  | case2 => simp [PatternItem.ofChars, matchesItems, not_like_never]
  | case3 c rest ih =>
    rw [like_escaped, PatternItem.ofChars, matchesItems_char]
    simp only [ih]
  | case4 rest ih =>
    rw [like_anyText, PatternItem.ofChars, matchesItems, anySuffix_iff]
    simp only [ih]
  | case5 rest ih =>
    rw [like_anyChar, PatternItem.ofChars]
    cases t with
    | nil => simp [matchesItems]
    | cons d v => simp [matchesItems, ih, and_assoc]
  | case6 c rest hlast hescape hany hone ih =>
    have hesc : c ≠ '\\' := by
      rintro rfl
      cases rest with
      | nil => exact hlast rfl rfl
      | cons c rest => exact hescape c rest rfl rfl
    have hchar : PatternItem.ofChars (c :: rest) = .char c :: PatternItem.ofChars rest := by
      rw [PatternItem.ofChars] <;> assumption
    rw [like_char hany hone hesc, hchar, matchesItems_char]
    simp only [ih]

theorem untilZero_of_notMem {s : String} (h : '\x00' ∉ s.toList) : untilZero s = s.toList := by
  refine List.takeWhile_eq_self_iff.2 fun c hc => decide_eq_true ?_
  rintro rfl
  exact h hc

/-- On texts that no zero character ends early, storage matches patterns as they are written. -/
theorem likeText_iff {pattern text : String} (hp : '\x00' ∉ pattern.toList) (ht : '\x00' ∉ text.toList) :
    likeText pattern text ↔ Like folded pattern.toList text.toList := by
  unfold likeText
  rw [untilZero_of_notMem hp, untilZero_of_notMem ht, matchesItems_iff]

/-! ### Escaped texts -/

private theorem like_escapePatternChar :
    Like fold (escapePatternChar c ++ p) t ↔ ∃ d v, t = d :: v ∧ fold c = fold d ∧ Like fold p v := by
  unfold escapePatternChar
  split
  · exact like_escaped
  · next hplain =>
    rw [not_or, not_or] at hplain
    exact like_char hplain.1 hplain.2.1 hplain.2.2

/-- An escaped text is met by a text of the same folding, and then the rest of the pattern by what is left. -/
theorem like_escapePattern {s : List Char} :
    Like fold (escapePattern s ++ p) t ↔ ∃ u v, t = u ++ v ∧ u.map fold = s.map fold ∧ Like fold p v := by
  induction s generalizing t with
  | nil =>
    constructor
    · intro h
      exact ⟨[], t, rfl, rfl, h⟩
    · rintro ⟨u, v, rfl, hu, h⟩
      obtain rfl := List.map_eq_nil_iff.1 hu
      exact h
  | cons c s ih =>
    rw [escapePattern, List.flatMap_cons, List.append_assoc, like_escapePatternChar]
    constructor
    · rintro ⟨d, v, rfl, hd, h⟩
      obtain ⟨u, v, rfl, hu, h⟩ := ih.1 h
      exact ⟨d :: u, v, rfl, by rw [List.map_cons, List.map_cons, hd, hu], h⟩
    · rintro ⟨u, v, rfl, hu, h⟩
      obtain ⟨d, u, rfl, hd, hu⟩ := List.map_eq_cons_iff.1 hu
      exact ⟨d, u ++ v, rfl, hd.symm, ih.2 ⟨u, v, rfl, hu, h⟩⟩

end Storage

/-! ### Anchors -/

namespace Anchor

open Storage (Like)

variable {α : Type} {fold : Char → α} {s t : List Char}

/-- Whether a text has another one in it at an anchor, apart from how characters fold. -/
def Finds (fold : Char → α) (s t : List Char) : Anchor → Prop
  | anywhere => s.map fold <:+: t.map fold
  | start => s.map fold <+: t.map fold
  | finish => s.map fold <:+ t.map fold

instance [DecidableEq α] (fold : Char → α) (s t : List Char) : (a : Anchor) → Decidable (a.Finds fold s t)
  | anywhere => inferInstanceAs (Decidable (s.map fold <:+: t.map fold))
  | start => inferInstanceAs (Decidable (s.map fold <+: t.map fold))
  | finish => inferInstanceAs (Decidable (s.map fold <:+ t.map fold))

private theorem prefix_map_iff : s.map fold <+: t.map fold ↔ ∃ u v, t = u ++ v ∧ u.map fold = s.map fold := by
  constructor
  · rintro ⟨r, hr⟩
    obtain ⟨u, v, rfl, hu, -⟩ := List.map_eq_append_iff.1 hr.symm
    exact ⟨u, v, rfl, hu⟩
  · rintro ⟨u, v, rfl, hu⟩
    rw [List.map_append, hu]
    exact List.prefix_append _ _

private theorem suffix_map_iff : s.map fold <:+ t.map fold ↔ ∃ u v, t = u ++ v ∧ v.map fold = s.map fold := by
  constructor
  · rintro ⟨r, hr⟩
    obtain ⟨u, v, rfl, -, hv⟩ := List.map_eq_append_iff.1 hr.symm
    exact ⟨u, v, rfl, hv⟩
  · rintro ⟨u, v, rfl, hv⟩
    rw [List.map_append, hv]
    exact List.suffix_append _ _

private theorem infix_map_iff :
    s.map fold <:+: t.map fold ↔ ∃ u v, t = u ++ v ∧ s.map fold <+: v.map fold := by
  constructor
  · rintro ⟨r, r', hr⟩
    rw [List.append_assoc] at hr
    obtain ⟨u, v, rfl, -, hv⟩ := List.map_eq_append_iff.1 hr.symm
    exact ⟨u, v, rfl, r', hv.symm⟩
  · rintro ⟨u, v, rfl, r', hv⟩
    refine ⟨u.map fold, r', ?_⟩
    rw [List.append_assoc, hv, List.map_append]

/-! ### What escaped texts ask for -/

private theorem like_anything : Like fold ['%'] t :=
  Storage.like_anyText.2 ⟨t, [], (List.append_nil t).symm, .nil⟩

private theorem like_open : Like fold (escapePattern s ++ ['%']) t ↔ s.map fold <+: t.map fold := by
  rw [Storage.like_escapePattern, prefix_map_iff]
  simp only [like_anything, and_true]

private theorem like_whole : Like fold (escapePattern s) t ↔ t.map fold = s.map fold := by
  have h : Like fold (escapePattern s ++ []) t ↔ ∃ u v, t = u ++ v ∧ u.map fold = s.map fold ∧ Like fold [] v :=
    Storage.like_escapePattern
  simp only [List.append_nil, Storage.like_nil] at h
  rw [h]
  constructor
  · rintro ⟨u, _, rfl, hu, rfl⟩
    rwa [List.append_nil]
  · intro ht
    exact ⟨t, [], (List.append_nil t).symm, ht, rfl⟩

private theorem like_closed : Like fold ('%' :: escapePattern s) t ↔ s.map fold <:+ t.map fold := by
  rw [Storage.like_anyText, suffix_map_iff]
  simp only [like_whole]

/-- The pattern of a value at an anchor is met by the texts that have the text of the value there. -/
theorem like_pattern (a : Anchor) (v : Scalar) :
    Like fold (a.pattern v).toList t ↔ a.Finds fold v.parameter.display.toList t := by
  unfold pattern
  rw [String.toList_ofList]
  cases a with
  | anywhere =>
    show Like fold ('%' :: (escapePattern v.parameter.display.toList ++ ['%'])) t ↔ _
    rw [Storage.like_anyText, Finds, infix_map_iff]
    simp only [like_open]
  | start => exact like_open
  | finish => exact like_closed

theorem notMem_pattern (a : Anchor) {v : Scalar} (h : '\x00' ∉ v.parameter.display.toList) :
    '\x00' ∉ (a.pattern v).toList := by
  have hescaped : '\x00' ∉ escapePattern v.parameter.display.toList := by
    unfold escapePattern
    rw [List.mem_flatMap]
    rintro ⟨c, hc, hzero⟩
    unfold escapePatternChar at hzero
    split at hzero
    · obtain hback | rfl : '\x00' = '\\' ∨ '\x00' = c := by simpa using hzero
      · exact absurd hback (by decide)
      · exact h hc
    · obtain rfl := List.mem_singleton.1 hzero
      exact h hc
  unfold pattern
  rw [String.toList_ofList]
  cases a <;> simpa using hescaped

/-! ### What storage finds -/

/-- Whether storage finds a text in another one at an anchor. Both end at a zero character, and nothing may follow what is
looked for when it is such an end. -/
def finds (a : Anchor) (s t : String) : Bool :=
  if '\x00' ∈ s.toList then
    match a with
    | start => (Storage.untilZero s).map Storage.folded == (Storage.untilZero t).map Storage.folded
    | anywhere | finish => finish.Finds Storage.folded (Storage.untilZero s) (Storage.untilZero t)
  else a.Finds Storage.folded s.toList (Storage.untilZero t)

/-- A zero character stands for itself in a pattern, and the pattern ends there. -/
private theorem takeWhile_escapePattern {s : List Char} (h : '\x00' ∈ s) (rest : List Char) :
    (escapePattern s ++ rest).takeWhile (fun c => c ≠ '\x00') =
      escapePattern (s.takeWhile fun c => c ≠ '\x00') := by
  induction s with
  | nil => cases h
  | cons c s ih =>
    by_cases hc : c = '\x00'
    · subst hc
      rfl
    · have hs : '\x00' ∈ s := (List.mem_cons.1 h).resolve_left fun he => hc he.symm
      have hchar : ∀ d ∈ escapePatternChar c, decide (d ≠ '\x00') = true := by
        unfold escapePatternChar
        split <;> simp [hc]
      rw [List.takeWhile_cons_of_pos (by simpa using hc), escapePattern, escapePattern, List.flatMap_cons,
        List.flatMap_cons, List.append_assoc, List.takeWhile_append_of_pos hchar]
      exact congrArg (escapePatternChar c ++ ·) (ih hs)

/-- Storage finds the text of a value by its pattern. -/
theorem likeText_pattern (a : Anchor) (v : Scalar) (t : String) :
    Storage.likeText (a.pattern v) t = a.finds v.parameter.display t := by
  unfold finds
  rw [Bool.eq_iff_iff, Storage.likeText, Storage.matchesItems_iff]
  by_cases h : '\x00' ∈ v.parameter.display.toList
  · have htake := takeWhile_escapePattern h
    have hwhole := htake []
    rw [List.append_nil] at hwhole
    rw [if_pos h]
    unfold pattern Storage.untilZero
    rw [String.toList_ofList]
    cases a with
    | anywhere =>
      show Like _ ('%' :: (escapePattern v.parameter.display.toList ++ ['%']).takeWhile _) _ ↔ _
      rw [htake, like_closed, decide_eq_true_iff]
      rfl
    | start =>
      show Like _ ((escapePattern v.parameter.display.toList ++ ['%']).takeWhile _) _ ↔ _
      rw [htake, like_whole, beq_iff_eq, eq_comm]
    | finish =>
      show Like _ ('%' :: (escapePattern v.parameter.display.toList).takeWhile _) _ ↔ _
      rw [hwhole, like_closed, decide_eq_true_iff]
      rfl
  · rw [if_neg h, Storage.untilZero_of_notMem (a.notMem_pattern h), a.like_pattern, decide_eq_true_iff]

end Anchor

end CriteriaStore
