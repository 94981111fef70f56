import CriteriaStore.Sql.Compiling
import Mathlib.Data.List.DropRight
import Mathlib.Data.List.Nodup

/-!
# Grouped conditions

A branch keeps its conditions in groups by operator. Whatever calls made it, its conditions are the recorded ones, stably
grouped: operators in the order of their first condition, and under each operator the conditions as they were pushed
(`calls_group_stably`).

A branch that was read may hold groups without conditions, and conditions that ask for nothing. Pushed onto an empty
branch, its conditions come out as they were, so nobody who asks for conditions can tell the two branches apart.
-/

namespace CriteriaStore

/-! ### Stable grouping of pairs -/

section Groups

variable {κ α : Type} [DecidableEq κ] {k : κ} {a : α} {l : List (κ × α)}

/-- The keys of pairs, in the order of their first pairs. -/
def firstKeys (l : List (κ × α)) : List κ := (l.map Prod.fst).eraseDups

/-- The items under a key, in their order. -/
def itemsOf (k : κ) (l : List (κ × α)) : List α := (l.filter fun x => x.1 = k).map Prod.snd

/-- The items of each key, keys in the order of their first pairs. -/
def groupsOf (l : List (κ × α)) : List (κ × List α) := (firstKeys l).map fun k => (k, itemsOf k l)

/-- The pairs of groups, group by group. -/
def ungrouped (groups : List (κ × List α)) : List (κ × α) := groups.flatMap fun (k, as) => as.map fun a => (k, a)

/-- Pairs in the order of their groups. -/
def stableGroups (l : List (κ × α)) : List (κ × α) := ungrouped (groupsOf l)

theorem mem_firstKeys : k ∈ firstKeys l ↔ k ∈ l.map Prod.fst := List.mem_eraseDups

private theorem firstKeys_cons (k : κ) (a : α) (l : List (κ × α)) :
    firstKeys ((k, a) :: l) = k :: firstKeys (l.filter fun x => x.1 ≠ k) := by
  unfold firstKeys
  rw [List.map_cons, List.eraseDups_cons, List.filter_map]
  congr 4
  funext x
  by_cases h : x.1 = k
  · simp [h]
  · simp [h]

private theorem itemsOf_filter {p : κ × α → Bool} (h : ∀ x ∈ l, x.1 = k → p x) :
    itemsOf k (l.filter p) = itemsOf k l := by
  unfold itemsOf
  rw [List.filter_filter]
  congr 1
  apply List.filter_congr
  intro x hx
  by_cases hk : x.1 = k
  · simp [hk, h x hx hk]
  · simp [hk]

/-- The first key takes all of its pairs to the front, and the other pairs are grouped behind them. -/
theorem stableGroups_cons (k : κ) (a : α) (l : List (κ × α)) :
    stableGroups ((k, a) :: l) =
      (k, a) :: (l.filter fun x => x.1 = k) ++ stableGroups (l.filter fun x => x.1 ≠ k) := by
  have hfirst : (itemsOf k ((k, a) :: l)).map (fun b => (k, b)) = (k, a) :: l.filter fun x => x.1 = k := by
    unfold itemsOf
    rw [List.filter_cons_of_pos (by simp), List.map_cons, List.map_cons, List.map_map]
    congr 1
    have hsame : ∀ x ∈ l.filter (fun x => x.1 = k), (k, x.2) = x := by
      intro x hx
      have hk : x.1 = k := by simpa using (List.mem_filter.1 hx).2
      rw [← hk]
    exact (List.map_congr_left hsame).trans (List.map_id _)
  have hothers : ∀ k' ∈ firstKeys (l.filter fun x => x.1 ≠ k),
      (k', itemsOf k' ((k, a) :: l)) = (k', itemsOf k' (l.filter fun x => x.1 ≠ k)) := by
    intro k' hk'
    obtain ⟨x, hx, rfl⟩ := List.mem_map.1 (mem_firstKeys.1 hk')
    have hne : x.1 ≠ k := by simpa using (List.mem_filter.1 hx).2
    rw [itemsOf_filter fun y _ hy => by simpa [hy] using hne]
    unfold itemsOf
    rw [List.filter_cons_of_neg (by simpa using Ne.symm hne)]
  unfold stableGroups groupsOf
  rw [firstKeys_cons, List.map_cons, List.map_congr_left hothers]
  unfold ungrouped
  rw [List.flatMap_cons]
  simp only [hfirst]

/-- Grouping loses nothing and repeats nothing. -/
theorem stableGroups_perm (l : List (κ × α)) : (stableGroups l).Perm l := by
  -- the pairs of the first key are set aside, so what is left is shorter but no tail
  induction hn : l.length using Nat.strong_induction_on generalizing l with
  | _ n ih =>
    cases l with
    | nil => exact .nil
    | cons x rest =>
      obtain ⟨k, a⟩ := x
      have hshorter : (rest.filter fun x => x.1 ≠ k).length < n := by
        have hle := List.length_filter_le (fun x => decide (x.1 ≠ k)) rest
        rw [List.length_cons] at hn
        omega
      have hrest := ih _ hshorter (rest.filter fun x => x.1 ≠ k) rfl
      rw [stableGroups_cons, List.cons_append]
      refine List.Perm.cons _ ((hrest.append_left _).trans ?_)
      have hsplit := List.filter_append_perm (fun x : κ × α => decide (x.1 = k)) rest
      simpa using hsplit

/-- Groups with different keys stay as they are when their pairs are grouped. -/
theorem stableGroups_ungrouped {groups : List (κ × List α)} (h : (groups.map Prod.fst).Nodup) :
    stableGroups (ungrouped groups) = ungrouped groups := by
  induction groups with
  | nil => rfl
  | cons group rest ih =>
    obtain ⟨k, as⟩ := group
    obtain ⟨hnew, hrest⟩ := List.nodup_cons.1 h
    have hlater : ∀ x ∈ ungrouped rest, x.1 ≠ k := by
      rintro x hx rfl
      obtain ⟨group, hgroup, hitem⟩ := List.mem_flatMap.1 hx
      obtain ⟨a, -, rfl⟩ := List.mem_map.1 hitem
      exact hnew (List.mem_map.2 ⟨group, hgroup, rfl⟩)
    cases as with
    | nil => exact ih hrest
    | cons a as =>
      have hsplit : ungrouped ((k, a :: as) :: rest) = (k, a) :: (as.map (fun b => (k, b)) ++ ungrouped rest) := rfl
      have hown : (as.map (fun b => (k, b)) ++ ungrouped rest).filter (fun x => x.1 = k) = as.map fun b => (k, b) := by
        rw [List.filter_append, List.filter_eq_self.2 (by simp), List.filter_eq_nil_iff.2 (by simpa using hlater),
          List.append_nil]
      have hother : (as.map (fun b => (k, b)) ++ ungrouped rest).filter (fun x => x.1 ≠ k) = ungrouped rest := by
        rw [List.filter_append, List.filter_eq_nil_iff.2 (by simp), List.filter_eq_self.2 (by simpa using hlater),
          List.nil_append]
      rw [hsplit, stableGroups_cons, hown, hother, ih hrest]
      rfl

/-! ### One more pair -/

theorem firstKeys_concat (k : κ) (a : α) (l : List (κ × α)) :
    firstKeys (l ++ [(k, a)]) = if k ∈ firstKeys l then firstKeys l else firstKeys l ++ [k] := by
  have hmem : k ∈ firstKeys l ↔ k ∈ l.map Prod.fst := mem_firstKeys
  unfold firstKeys at hmem ⊢
  rw [List.map_append, List.eraseDups_append]
  by_cases h : k ∈ l.map Prod.fst
  · rw [if_pos (hmem.2 h)]
    simp [List.removeAll, h]
  · rw [if_neg fun h' => h (hmem.1 h')]
    simp [List.removeAll, h, List.eraseDups_cons]

theorem itemsOf_concat (k' : κ) : itemsOf k' (l ++ [(k, a)]) =
    if k = k' then itemsOf k' l ++ [a] else itemsOf k' l := by
  unfold itemsOf
  rw [List.filter_append, List.map_append]
  by_cases h : k = k'
  · simp [h]
  · simp [h]

private theorem itemsOf_eq_nil (h : k ∉ firstKeys l) : itemsOf k l = [] := by
  unfold itemsOf
  rw [List.map_eq_nil_iff, List.filter_eq_nil_iff]
  intro x hx hk
  rw [mem_firstKeys] at h
  exact h (of_decide_eq_true hk ▸ List.mem_map_of_mem hx)

private theorem lookup_map {β : Type} (f : κ → β) (k : κ) (keys : List κ) :
    OrderedMap.lookup k (keys.map fun k' => (k', f k')) = if k ∈ keys then some (f k) else none := by
  induction keys with
  | nil => rfl
  | cons k' rest ih =>
    by_cases h : k' = k
    · simp [OrderedMap.lookup, h]
    · simp [OrderedMap.lookup, h, Ne.symm h, ih]

theorem lookup_groupsOf (k : κ) (l : List (κ × α)) : (OrderedMap.lookup k (groupsOf l)).getD [] = itemsOf k l := by
  unfold groupsOf
  rw [lookup_map]
  by_cases h : k ∈ firstKeys l
  · rw [if_pos h]
    rfl
  · rw [if_neg h, itemsOf_eq_nil h]
    rfl

private theorem put_map_of_mem {β : Type} {f g : κ → β} {keys : List κ} (hk : k ∈ keys) (hkeys : keys.Nodup)
    (hother : ∀ k', k' ≠ k → f k' = g k') :
    OrderedMap.put k (g k) (keys.map fun k' => (k', f k')) = keys.map fun k' => (k', g k') := by
  induction keys with
  | nil => cases hk
  | cons k' rest ih =>
    obtain ⟨hnew, hrest⟩ := List.nodup_cons.1 hkeys
    by_cases h : k' = k
    · subst h
      have hsame : ∀ k'' ∈ rest, (k'', f k'') = (k'', g k'') := by
        intro k'' hk''
        rw [hother k'' fun he => hnew (he ▸ hk'')]
      rw [List.map_cons, List.map_cons, List.map_congr_left hsame]
      simp [OrderedMap.put]
    · have hmem : k ∈ rest := (List.mem_cons.1 hk).resolve_left (Ne.symm h)
      rw [List.map_cons, List.map_cons, ← ih hmem hrest, hother k' h]
      simp [OrderedMap.put, h]

theorem nodup_firstKeys (l : List (κ × α)) : (firstKeys l).Nodup := by
  induction l using List.reverseRecOn with
  | nil => exact .nil
  | append_singleton l x ih =>
    rw [firstKeys_concat]
    split
    · exact ih
    · rename_i hnew
      rw [List.nodup_append]
      refine ⟨ih, List.nodup_singleton _, ?_⟩
      rintro k hk k' hk' rfl
      exact hnew (List.mem_singleton.1 hk' ▸ hk)

/-- An item that is put behind those of its key is put into the groups. -/
theorem put_groupsOf (k : κ) (a : α) (l : List (κ × α)) :
    OrderedMap.put k (itemsOf k l ++ [a]) (groupsOf l) = groupsOf (l ++ [(k, a)]) := by
  have hitem : itemsOf k (l ++ [(k, a)]) = itemsOf k l ++ [a] := by rw [itemsOf_concat, if_pos rfl]
  have hother : ∀ k', k' ≠ k → itemsOf k' l = itemsOf k' (l ++ [(k, a)]) := by
    intro k' hk'
    rw [itemsOf_concat, if_neg (Ne.symm hk')]
  unfold groupsOf
  rw [← hitem, firstKeys_concat]
  by_cases h : k ∈ firstKeys l
  · rw [if_pos h, put_map_of_mem (g := fun k' => itemsOf k' (l ++ [(k, a)])) h (nodup_firstKeys l) hother]
  · have hsame : ∀ k' ∈ firstKeys l, (k', itemsOf k' l) = (k', itemsOf k' (l ++ [(k, a)])) := by
      intro k' hk'
      rw [hother k' fun he => h (he ▸ hk')]
    rw [if_neg h, List.map_append, List.map_congr_left hsame]
    apply OrderedMap.put_of_notMem
    rw [List.map_map]
    simpa [Function.comp_def] using h

end Groups

namespace Branch

/-! ### Calls on a branch -/

/-- A call that changes a branch. -/
inductive Call where
  | push (op : Operator) (c : Condition)
  | clear

namespace Call

/-- Whether a call clears the branch. -/
def isClear : Call → Bool
  | clear => true
  | push .. => false

/-- The condition that a call records; one that asks for nothing is dropped. -/
def recorded? : Call → Option (Operator × Condition)
  | push op c => if c.operand.isEffective then some (op, c) else none
  | clear => none

end Call

/-- The branch after a call. -/
def perform (b : Branch) : Call → Branch
  | .push op c => b.push op c
  | .clear => .empty

/-- The conditions that ask for something, of the calls after the last one that clears the branch. -/
def recorded (calls : List Call) : List (Operator × Condition) :=
  (calls.rtakeWhile fun call => !call.isClear).filterMap Call.recorded?

private theorem recorded_concat_push (calls : List Call) (op : Operator) (c : Condition) :
    recorded (calls ++ [.push op c]) = recorded calls ++ (Call.recorded? (.push op c)).toList := by
  unfold recorded
  rw [List.rtakeWhile_concat_pos _ _ _ rfl, List.filterMap_append, List.filterMap_cons, List.filterMap_nil]
  cases Call.recorded? (.push op c) <;> rfl

private theorem recorded_concat_clear (calls : List Call) : recorded (calls ++ [.clear]) = [] := by
  unfold recorded
  rw [List.rtakeWhile_concat_neg _ _ _ (by simp [Call.isClear])]
  rfl

theorem isEffective_of_mem_recorded {calls : List Call} {x : Operator × Condition} (h : x ∈ recorded calls) :
    x.2.operand.isEffective := by
  obtain ⟨call, -, hcall⟩ := List.mem_filterMap.1 h
  cases call with
  | clear => cases hcall
  | push op c =>
    by_cases hc : c.operand.isEffective
    · simp only [Call.recorded?, hc, if_true, Option.some.injEq] at hcall
      rw [← hcall]
      exact hc
    · simp [Call.recorded?, hc] at hcall

variable {b : Branch} {l : List (Operator × Condition)} {op : Operator} {c : Condition}

theorem get_of_groups (h : b.groups.entries = groupsOf l) (op : Operator) : b.get op = itemsOf op l := by
  unfold get OrderedMap.get?
  rw [h, lookup_groupsOf]

theorem groups_push (h : b.groups.entries = groupsOf l) (hc : c.operand.isEffective) :
    (b.push op c).groups.entries = groupsOf (l ++ [(op, c)]) := by
  unfold push
  rw [if_pos hc, get_of_groups h]
  show OrderedMap.put op (itemsOf op l ++ [c]) b.groups.entries = _
  rw [h, put_groupsOf]

/-- One call: what is pushed goes behind the conditions of its operator, and clearing forgets all of them. -/
theorem groups_perform {calls : List Call} (call : Call)
    (h : call = .clear ∨ b.groups.entries = groupsOf (recorded calls)) :
    (b.perform call).groups.entries = groupsOf (recorded (calls ++ [call])) := by
  cases call with
  | clear =>
    rw [recorded_concat_clear]
    rfl
  | push op c =>
    have hb : b.groups.entries = groupsOf (recorded calls) := h.resolve_left fun he => by cases he
    rw [recorded_concat_push]
    show (b.push op c).groups.entries = _
    by_cases hc : c.operand.isEffective
    · rw [groups_push hb hc]
      simp [Call.recorded?, hc]
    · unfold push
      rw [if_neg hc, hb]
      simp [Call.recorded?, hc]

/-- Any calls on an empty branch, or on one that is cleared on the way. -/
theorem groups_foldl_perform (calls : List Call) (h : b = .empty ∨ .clear ∈ calls) :
    (calls.foldl perform b).groups.entries = groupsOf (recorded calls) := by
  induction calls using List.reverseRecOn with
  | nil =>
    obtain rfl := h.resolve_right List.not_mem_nil
    rfl
  | append_singleton calls call ih =>
    rw [List.foldl_append, List.foldl_cons, List.foldl_nil]
    apply groups_perform
    by_cases hclear : call = .clear
    · exact .inl hclear
    · refine .inr (ih (h.imp_right fun hmem => ?_))
      rcases List.mem_append.1 hmem with hmem | hmem
      · exact hmem
      · exact absurd (List.mem_singleton.1 hmem).symm hclear

/-! ### The conditions of a branch -/

/-- The groups of a branch without what asks for nothing. -/
private def effectiveGroups (b : Branch) : List (Operator × List Condition) :=
  b.groups.entries.map fun (op, cs) => (op, cs.filter fun c => c.operand.isEffective)

private theorem conditions_eq_ungrouped (b : Branch) : b.conditions = ungrouped b.effectiveGroups := by
  unfold conditions ungrouped effectiveGroups
  rw [List.filter_flatMap, List.flatMap_map]
  congr 1
  funext group
  exact List.filter_map

theorem conditions_of_groups (h : b.groups.entries = groupsOf l) (hl : ∀ x ∈ l, x.2.operand.isEffective) :
    b.conditions = stableGroups l := by
  unfold conditions
  rw [h]
  show (stableGroups l).filter _ = _
  rw [List.filter_eq_self]
  intro x hx
  exact hl x ((stableGroups_perm l).mem_iff.1 hx)

/-- The branch that the conditions of a branch make when they are pushed one after the other. -/
def rebuilt (b : Branch) : Branch := b.conditions.foldl (fun r (op, c) => r.push op c) .empty

private theorem nodup_effectiveGroups (b : Branch) : (b.effectiveGroups.map Prod.fst).Nodup := by
  have hkeys : b.effectiveGroups.map Prod.fst = b.groups.entries.map Prod.fst := by
    unfold effectiveGroups
    rw [List.map_map]
    rfl
  rw [hkeys]
  exact b.groups.nodup

theorem recorded_pushes (h : ∀ x ∈ l, x.2.operand.isEffective) :
    recorded (l.map fun x => Call.push x.1 x.2) = l := by
  have hkept : (l.map fun x => Call.push x.1 x.2).rtakeWhile (fun call => !call.isClear) =
      l.map fun x => Call.push x.1 x.2 := by
    rw [List.rtakeWhile_eq_self_iff]
    intro call hcall
    obtain ⟨x, -, rfl⟩ := List.mem_map.1 hcall
    rfl
  unfold recorded
  rw [hkept, List.filterMap_map]
  refine (List.filterMap_congr fun x hx => ?_).trans List.filterMap_some
  simp [Call.recorded?, h x hx]

/-- A branch cannot be told from the one that its conditions make, even if it was read with groups and sets that are
empty. -/
theorem conditions_rebuilt (b : Branch) : b.rebuilt.conditions = b.conditions := by
  have heffective : ∀ x ∈ b.conditions, x.2.operand.isEffective := fun x hx => (List.mem_filter.1 hx).2
  have hrun : b.rebuilt = (b.conditions.map fun x => Call.push x.1 x.2).foldl perform .empty := by
    unfold rebuilt
    rw [List.foldl_map]
    rfl
  have hgroups : b.rebuilt.groups.entries = groupsOf b.conditions := by
    rw [hrun, groups_foldl_perform _ (.inl rfl), recorded_pushes heffective]
  calc b.rebuilt.conditions
      = stableGroups b.conditions := conditions_of_groups hgroups heffective
    _ = b.conditions := by rw [conditions_eq_ungrouped, stableGroups_ungrouped b.nodup_effectiveGroups]

end Branch

namespace Filter

/-- The filter whose branches are rebuilt from their conditions. -/
def rebuilt (f : Filter) : Filter where
  must := f.must.rebuilt
  mustNot := f.mustNot.rebuilt
  should := f.should.rebuilt

theorem conditions_rebuilt (f : Filter) : f.rebuilt.conditions = f.conditions := by
  have hbranch : ∀ clause, (f.rebuilt.branch clause).conditions = (f.branch clause).conditions := by
    intro clause
    cases clause <;> exact Branch.conditions_rebuilt _
  unfold conditions
  simp only [hbranch]

end Filter

namespace Branch

/-- Calls on an empty branch, or on any branch that they clear, leave the conditions that were recorded since it was
empty, each of them once: stably grouped by operator as a whole, and in the order of the calls under each operator.
Pushing the conditions of any branch onto an empty one gives these conditions in the same order. So a filter with rebuilt
branches names the same properties, is empty when the other is, and is compiled to the same condition with the same
bindings, or fails with the same error. -/
theorem calls_group_stably :
    (∀ (b : Branch) (calls : List Call), b = .empty ∨ .clear ∈ calls →
      (calls.foldl perform b).conditions = stableGroups (recorded calls) ∧
        (calls.foldl perform b).conditions.Perm (recorded calls) ∧
        ∀ op, (calls.foldl perform b).get op = itemsOf op (recorded calls)) ∧
      (∀ b : Branch, b.rebuilt.conditions = b.conditions) ∧
      ∀ f : Filter, f.rebuilt.isEmpty = f.isEmpty ∧ f.rebuilt.properties = f.properties ∧
        ∀ (properties : PropertyMap) (bindings : Bindings),
          f.rebuilt.compile properties bindings = f.compile properties bindings := by
  refine ⟨?_, conditions_rebuilt, ?_⟩
  · intro b calls h
    have hgroups := groups_foldl_perform calls h
    have hconditions := conditions_of_groups hgroups fun _ => isEffective_of_mem_recorded
    refine ⟨hconditions, ?_, get_of_groups hgroups⟩
    rw [hconditions]
    exact stableGroups_perm _
  · intro f
    have hsame := f.conditions_rebuilt
    refine ⟨?_, ?_, ?_⟩
    · unfold Filter.isEmpty
      rw [hsame]
    · unfold Filter.properties
      rw [hsame]
    · intro properties bindings
      unfold Filter.compile
      rw [hsame]

/-- Clearing a branch that was read with an empty set, and pushing two operators in turns, with an empty set between. -/
theorem calls_group_stably_of_interleaving :
    let b : Branch := ⟨OrderedMap.ofList [(.group, [⟨"a", .set []⟩]), (.range, [])]⟩
    let calls : List Call :=
      [.push .equals ⟨"a", .none⟩, .clear, .push .greaterThan ⟨"b", .scalar (.int 1)⟩, .push .group ⟨"c", .set []⟩,
        .push .equals ⟨"d", .scalar (.int 2)⟩, .push .greaterThan ⟨"e", .scalar (.int 3)⟩]
    (b = .empty ∨ .clear ∈ calls) ∧
      (calls.foldl perform b).conditions =
        [(.greaterThan, ⟨"b", .scalar (.int 1)⟩), (.greaterThan, ⟨"e", .scalar (.int 3)⟩),
          (.equals, ⟨"d", .scalar (.int 2)⟩)] := by
  intro b calls
  have hclear : b = .empty ∨ .clear ∈ calls := .inr (.tail _ (.head _))
  exact ⟨hclear, (calls_group_stably.1 b calls hclear).1⟩

end Branch

end CriteriaStore
