import CriteriaStore.Criteria.Decoding
import CriteriaStore.Proofs.Criteria.Grouping

/-!
# Sort keys keep their place

Setting a direction changes the first key of a property and no other one, or puts a new key at the end
(`keys_set_of_mem`, `keys_set_of_notMem`). This holds of every sort order, of one that was read with repeated properties
as well.

From it follows what calls make of an empty sort order: every property that was mentioned once, where it was mentioned
first and with the direction that was mentioned last (`calls_keep_first_place`).
-/

namespace CriteriaStore.SortOrder

variable {s : SortOrder} {p q : String} {d e : Direction} {l : List (String × Direction)}

/-- The properties of the keys, in their order. -/
def properties (s : SortOrder) : List String := s.keys.map SortKey.property

/-! ### One key -/

theorem setKey_of_notMem {ks : List SortKey} (h : p ∉ ks.map SortKey.property) : setKey p d ks = ks ++ [⟨p, d⟩] := by
  induction ks with
  | nil => rfl
  | cons k rest ih =>
    rw [List.map_cons, List.mem_cons, not_or] at h
    rw [setKey, if_neg (Ne.symm h.1), ih h.2, List.cons_append]

theorem setKey_of_first {before after : List SortKey} {k : SortKey} (hnew : p ∉ before.map SortKey.property)
    (hk : k.property = p) : setKey p d (before ++ k :: after) = before ++ ⟨p, d⟩ :: after := by
  induction before with
  | nil =>
    subst hk
    exact if_pos rfl
  | cons b before ih =>
    rw [List.map_cons, List.mem_cons, not_or] at hnew
    rw [List.cons_append, setKey, if_neg (Ne.symm hnew.1), ih hnew.2, List.cons_append]

/-- A present property has a first key. -/
theorem exists_first (h : p ∈ s.properties) :
    ∃ before k after, s.keys = before ++ k :: after ∧ p ∉ before.map SortKey.property ∧ k.property = p := by
  obtain ⟨k, hk, hfound⟩ := List.mem_map.1 h
  have hsome : (s.keys.find? fun k => k.property = p).isSome := List.find?_isSome.2 ⟨k, hk, by simpa using hfound⟩
  obtain ⟨first, hfirst⟩ := Option.isSome_iff_exists.1 hsome
  obtain ⟨hproperty, before, after, hkeys, hbefore⟩ := List.find?_eq_some_iff_append.1 hfirst
  refine ⟨before, first, after, hkeys, fun hmem => ?_, of_decide_eq_true hproperty⟩
  obtain ⟨b, hb, hsame⟩ := List.mem_map.1 hmem
  simpa [hsame] using hbefore b hb

/-- A new property is put at the end. -/
theorem keys_set_of_notMem (h : p ∉ s.properties) (d : Direction) : (s.set p d).keys = s.keys ++ [⟨p, d⟩] :=
  setKey_of_notMem h

/-- The first key of a present property takes the direction, where it stands. -/
theorem keys_set_of_mem (h : p ∈ s.properties) (d : Direction) :
    ∃ before k after, s.keys = before ++ k :: after ∧ p ∉ before.map SortKey.property ∧ k.property = p ∧
      (s.set p d).keys = before ++ ⟨p, d⟩ :: after := by
  obtain ⟨before, k, after, hkeys, hnew, hk⟩ := exists_first h
  refine ⟨before, k, after, hkeys, hnew, hk, ?_⟩
  show setKey p d s.keys = _
  rw [hkeys, setKey_of_first hnew hk]

theorem properties_set_of_mem (h : p ∈ s.properties) (d : Direction) : (s.set p d).properties = s.properties := by
  obtain ⟨before, k, after, hkeys, -, hk, hset⟩ := keys_set_of_mem h d
  unfold properties
  rw [hkeys, hset, List.map_append, List.map_append, List.map_cons, List.map_cons, hk]

theorem properties_set_of_notMem (h : p ∉ s.properties) (d : Direction) :
    (s.set p d).properties = s.properties ++ [p] := by
  unfold properties
  rw [keys_set_of_notMem h, List.map_append]
  rfl

theorem directionOf?_set (s : SortOrder) (p q : String) (d : Direction) :
    (s.set p d).directionOf? q = if p = q then some d else s.directionOf? q := by
  have hkeys (ks : List SortKey) : ((setKey p d ks).find? fun k => k.property = q).map SortKey.direction =
      if p = q then some d else (ks.find? fun k => k.property = q).map SortKey.direction := by
    induction ks with
    | nil => by_cases h : p = q <;> simp [setKey, h]
    | cons k rest ih =>
      by_cases hk : k.property = p
      · by_cases h : p = q <;> simp [setKey, hk, h]
      · by_cases h : k.property = q
        · have hne : p ≠ q := fun he => hk (h.trans he.symm)
          simp [setKey, h, hne, Ne.symm hne]
        · simpa [setKey, hk, h] using ih
  exact hkeys s.keys

/-- Directions of two present properties may be set in either order. -/
theorem set_comm (h : q ≠ p) (hp : p ∈ s.properties) (hq : q ∈ s.properties) :
    (s.set p d).set q e = (s.set q e).set p d := by
  have hkeys (ks : List SortKey) (hp : p ∈ ks.map SortKey.property) (hq : q ∈ ks.map SortKey.property) :
      setKey q e (setKey p d ks) = setKey p d (setKey q e ks) := by
    induction ks with
    | nil => cases hp
    | cons k rest ih =>
      by_cases hkp : k.property = p
      · have hkq : k.property ≠ q := fun he => h (he.symm.trans hkp)
        simp [setKey, hkp, Ne.symm h]
      · by_cases hkq : k.property = q
        · simp [setKey, hkq, h]
        · have hp' := (List.mem_cons.1 hp).resolve_left (Ne.symm hkp)
          have hq' := (List.mem_cons.1 hq).resolve_left (Ne.symm hkq)
          simp [setKey, hkp, hkq, ih hp' hq']
  exact congrArg SortOrder.mk (hkeys s.keys hp hq)

/-! ### Calls -/

/-- A call that makes or changes a sort order. -/
inductive Call where
  | ascending (property : String)
  | descending (property : String)
  /-- Starts anew, with one direction for several properties. -/
  | uniform (properties : List String) (direction : Direction)
  | set (property : String) (direction : Direction)

/-- The sort order after a call. -/
def perform (s : SortOrder) : Call → SortOrder
  | .ascending p => s.set p .asc
  | .descending p => s.set p .desc
  | .uniform ps d => uniform ps d
  | .set p d => s.set p d

/-- The mentions of calls, those before the last call that starts anew forgotten. -/
def mentions (calls : List Call) : List (String × Direction) :=
  calls.foldl (fun l call =>
    match call with
    | .ascending p => l ++ [(p, .asc)]
    | .descending p => l ++ [(p, .desc)]
    | .uniform ps d => ps.map fun p => (p, d)
    | .set p d => l ++ [(p, d)]) []

/-- Whether a sort order has the properties that were mentioned, each where it was mentioned first and with the direction
that was mentioned last. -/
structure Records (s : SortOrder) (l : List (String × Direction)) : Prop where
  properties : s.properties = firstKeys l
  directions : ∀ p, s.directionOf? p = (itemsOf p l).getLast?

theorem records_empty : Records {} [] := ⟨rfl, fun _ => rfl⟩

/-- One more mention. -/
theorem Records.set (h : Records s l) (p : String) (d : Direction) : Records (s.set p d) (l ++ [(p, d)]) := by
  constructor
  · rw [firstKeys_concat]
    by_cases hp : p ∈ firstKeys l
    · rw [if_pos hp, properties_set_of_mem (h.properties ▸ hp), h.properties]
    · rw [if_neg hp, properties_set_of_notMem (h.properties ▸ hp), h.properties]
  · intro q
    rw [directionOf?_set, itemsOf_concat, h.directions]
    by_cases hq : p = q
    · rw [if_pos hq, if_pos hq, List.getLast?_concat]
    · rw [if_neg hq, if_neg hq]

theorem records_uniform (ps : List String) (d : Direction) : Records (uniform ps d) (ps.map fun p => (p, d)) := by
  induction ps using List.reverseRecOn with
  | nil => exact records_empty
  | append_singleton ps p ih =>
    unfold uniform
    rw [List.foldl_append, List.map_append]
    exact ih.set p d

/-- Any calls on an empty sort order. -/
theorem records_foldl_perform (calls : List Call) : Records (calls.foldl perform {}) (mentions calls) := by
  induction calls using List.reverseRecOn with
  | nil => exact records_empty
  | append_singleton calls call ih =>
    unfold mentions
    rw [List.foldl_append, List.foldl_append]
    cases call with
    | ascending p => exact ih.set p .asc
    | descending p => exact ih.set p .desc
    | uniform ps d => exact records_uniform ps d
    | set p d => exact ih.set p d

/-- Where no property is repeated, each key tells the direction of its property. -/
theorem directionOf?_of_mem (hdistinct : s.properties.Nodup) {k : SortKey} (hk : k ∈ s.keys) :
    s.directionOf? k.property = some k.direction := by
  have hkeys (ks : List SortKey) (hdistinct : (ks.map SortKey.property).Nodup) (hk : k ∈ ks) :
      ks.find? (fun k' => k'.property = k.property) = some k := by
    induction ks with
    | nil => cases hk
    | cons k' rest ih =>
      obtain ⟨hnew, hrest⟩ := List.nodup_cons.1 hdistinct
      rcases List.mem_cons.1 hk with rfl | hmem
      · exact List.find?_cons_of_pos (by simp)
      · have hne : k'.property ≠ k.property := fun he => hnew (he ▸ List.mem_map_of_mem hmem)
        rw [List.find?_cons_of_neg (by simpa using hne), ih hrest hmem]
  unfold directionOf?
  rw [hkeys s.keys hdistinct hk]
  rfl

/-- Calls on an empty sort order leave every property that was mentioned once, in the order of the first mentions and with
the direction that was mentioned last, which is the direction that is told of it. Whatever the sort order, properties may
be repeated in it: setting a direction is seen by asking for it and leaves the directions of other properties alone; a
present property keeps its place, with only the first key of it changed, and a new one is put at the end; and directions
of two present properties may be set in either order. -/
theorem calls_keep_first_place :
    (∀ calls : List Call,
      let s := calls.foldl perform {}
      s.properties.Nodup ∧ s.properties = firstKeys (mentions calls) ∧
        (∀ p, s.directionOf? p = (itemsOf p (mentions calls)).getLast?) ∧
        ∀ k ∈ s.keys, (itemsOf k.property (mentions calls)).getLast? = some k.direction) ∧
      ∀ (s : SortOrder) (p : String) (d : Direction),
        (s.set p d).directionOf? p = some d ∧
          (∀ q, q ≠ p → (s.set p d).directionOf? q = s.directionOf? q) ∧
          (p ∈ s.properties → (s.set p d).properties = s.properties ∧
            ∃ before k after, s.keys = before ++ k :: after ∧ p ∉ before.map SortKey.property ∧ k.property = p ∧
              (s.set p d).keys = before ++ ⟨p, d⟩ :: after) ∧
          (p ∉ s.properties → (s.set p d).keys = s.keys ++ [⟨p, d⟩]) ∧
          ∀ q e, q ≠ p → p ∈ s.properties → q ∈ s.properties → (s.set p d).set q e = (s.set q e).set p d := by
  constructor
  · intro calls s
    have hrecords : Records s (mentions calls) := records_foldl_perform calls
    have hdistinct : s.properties.Nodup := by
      rw [hrecords.properties]
      exact nodup_firstKeys _
    refine ⟨hdistinct, hrecords.properties, hrecords.directions, fun k hk => ?_⟩
    rw [← hrecords.directions, directionOf?_of_mem hdistinct hk]
  · intro s p d
    refine ⟨?_, ?_, fun hp => ⟨properties_set_of_mem hp d, keys_set_of_mem hp d⟩, fun hp => keys_set_of_notMem hp d,
      fun q e hne hp hq => set_comm hne hp hq⟩
    · rw [directionOf?_set, if_pos rfl]
    · intro q hq
      rw [directionOf?_set, if_neg (Ne.symm hq)]

/-- Two properties set in turns after a new start, and a sort order that was read with a repeated name. -/
theorem calls_keep_first_place_of_repeated_name :
    let calls : List Call := [.ascending "id", .uniform ["name", "date"] .asc, .set "name" .desc, .descending "id"]
    let read : SortOrder := ⟨[⟨"name", .asc⟩, ⟨"id", .asc⟩, ⟨"name", .desc⟩]⟩
    (calls.foldl perform {}).properties = ["name", "date", "id"] ∧
      SortOrder.decode? read.toJson = some read ∧ "id" ≠ "name" ∧ "name" ∈ read.properties ∧ "id" ∈ read.properties ∧
      (read.set "name" .desc).properties = read.properties ∧
      (read.set "name" .desc).set "id" .desc = (read.set "id" .desc).set "name" .desc := by
  intro calls read
  have hname : "name" ∈ read.properties := by decide
  have hid : "id" ∈ read.properties := by decide
  have hread := calls_keep_first_place.2 read "name" .desc
  exact ⟨(calls_keep_first_place.1 calls).2.1, rfl, by decide, hname, hid, (hread.2.2.1 hname).1,
    hread.2.2.2.2 "id" .desc (by decide) hname hid⟩

end CriteriaStore.SortOrder
