/-!
# Ordered maps

Finite maps that remember the order in which their keys were first inserted.

* `insert` on a present key replaces the value and keeps the position (`keys_insert_of_mem`).
* `insert` on an absent key appends at the end (`entries_insert_of_notMem`).
* `get?_insert` is the reading law, and `erase` keeps the order of the rest.
* A map built from pairs with different keys has these pairs as its entries (`entries_ofList`).
-/

namespace CriteriaStore

/-- A list of key and value pairs whose keys are pairwise different. -/
structure OrderedMap (κ ν : Type) where
  entries : List (κ × ν)
  nodup : (entries.map Prod.fst).Nodup

namespace OrderedMap

variable {κ ν : Type}

@[ext] theorem ext {m n : OrderedMap κ ν} (h : m.entries = n.entries) : m = n := by
  cases m; cases n; simp_all

instance [BEq κ] [BEq ν] : BEq (OrderedMap κ ν) where
  beq m n := m.entries == n.entries

/-- The map without entries. -/
def empty : OrderedMap κ ν := ⟨[], by simp⟩

instance : EmptyCollection (OrderedMap κ ν) := ⟨empty⟩

instance : Inhabited (OrderedMap κ ν) := ⟨empty⟩

/-- The keys, in order of first insertion. -/
def keys (m : OrderedMap κ ν) : List κ := m.entries.map Prod.fst

/-- The values, in the order of their keys. -/
def values (m : OrderedMap κ ν) : List ν := m.entries.map Prod.snd

/-- The number of entries. -/
def size (m : OrderedMap κ ν) : Nat := m.entries.length

/-- Whether there is no entry. -/
def isEmpty (m : OrderedMap κ ν) : Bool := m.entries.isEmpty

variable [DecidableEq κ]

/-- The value stored under a key of an entry list. -/
def lookup (k : κ) : List (κ × ν) → Option ν
  | [] => none
  | (k', v) :: rest => if k' = k then some v else lookup k rest

/-- The value stored under a key. -/
def get? (m : OrderedMap κ ν) (k : κ) : Option ν := lookup k m.entries

/-- Whether a key is present. -/
def contains (m : OrderedMap κ ν) (k : κ) : Bool := (m.get? k).isSome

/-- An entry list with the value of one key replaced, or appended when the key is absent. -/
def put (k : κ) (v : ν) : List (κ × ν) → List (κ × ν)
  | [] => [(k, v)]
  | (k', v') :: rest => if k' = k then (k', v) :: rest else (k', v') :: put k v rest

theorem put_of_notMem {k : κ} {v : ν} {l : List (κ × ν)} (h : k ∉ l.map Prod.fst) :
    put k v l = l ++ [(k, v)] := by
  induction l with
  | nil => rfl
  | cons e rest ih =>
    obtain ⟨k', v'⟩ := e
    simp only [List.map_cons, List.mem_cons, not_or] at h
    simp [put, Ne.symm h.1, ih h.2]

theorem keys_put_of_mem {k : κ} {v : ν} {l : List (κ × ν)} (h : k ∈ l.map Prod.fst) :
    (put k v l).map Prod.fst = l.map Prod.fst := by
  induction l with
  | nil => simp at h
  | cons e rest ih =>
    obtain ⟨k', v'⟩ := e
    by_cases hk : k' = k
    · simp [put, hk]
    · simp only [List.map_cons, List.mem_cons] at h
      simp [put, hk, ih (h.resolve_left fun he => hk he.symm)]

theorem nodup_put {k : κ} {v : ν} {l : List (κ × ν)} (h : (l.map Prod.fst).Nodup) :
    ((put k v l).map Prod.fst).Nodup := by
  by_cases hk : k ∈ l.map Prod.fst
  · rw [keys_put_of_mem hk]; exact h
  · rw [put_of_notMem hk, List.map_append, List.nodup_append]
    refine ⟨h, by simp, ?_⟩
    intro a ha b hb he
    simp only [List.map_cons, List.map_nil, List.mem_singleton] at hb
    exact hk (hb ▸ he ▸ ha)

/-- Store a value: in place when the key is present, at the end otherwise. -/
def insert (m : OrderedMap κ ν) (k : κ) (v : ν) : OrderedMap κ ν :=
  ⟨put k v m.entries, nodup_put m.nodup⟩

/-- Remove a key; the other entries keep their order. -/
def erase (m : OrderedMap κ ν) (k : κ) : OrderedMap κ ν :=
  ⟨m.entries.filter fun e => e.1 ≠ k,
    List.Nodup.sublist ((List.filter_sublist).map Prod.fst) m.nodup⟩

/-- Insert pairs one after the other. -/
def insertAll (m : OrderedMap κ ν) (pairs : List (κ × ν)) : OrderedMap κ ν :=
  pairs.foldl (fun m e => m.insert e.1 e.2) m

/-- The map built by inserting pairs in order. -/
def ofList (pairs : List (κ × ν)) : OrderedMap κ ν := empty.insertAll pairs

theorem lookup_put (k k' : κ) (v : ν) (l : List (κ × ν)) :
    lookup k' (put k v l) = if k = k' then some v else lookup k' l := by
  induction l with
  | nil => simp [put, lookup]
  | cons e rest ih =>
    obtain ⟨a, b⟩ := e
    by_cases ha : a = k
    · subst ha; by_cases h : a = k' <;> simp [put, lookup, h]
    · by_cases h : a = k'
      · subst h; simp [put, lookup, ha, Ne.symm ha]
      · simp [put, lookup, ha, h, ih]

theorem get?_insert (m : OrderedMap κ ν) (k k' : κ) (v : ν) :
    (m.insert k v).get? k' = if k = k' then some v else m.get? k' :=
  lookup_put k k' v m.entries

theorem entries_insert_of_notMem {m : OrderedMap κ ν} {k : κ} (v : ν) (h : k ∉ m.keys) :
    (m.insert k v).entries = m.entries ++ [(k, v)] :=
  put_of_notMem h

theorem keys_insert_of_mem {m : OrderedMap κ ν} {k : κ} (v : ν) (h : k ∈ m.keys) :
    (m.insert k v).keys = m.keys :=
  keys_put_of_mem h

theorem lookup_eq_some_of_mem {k : κ} {v : ν} {l : List (κ × ν)} (hn : (l.map Prod.fst).Nodup)
    (h : (k, v) ∈ l) : lookup k l = some v := by
  induction l with
  | nil => simp at h
  | cons e rest ih =>
    obtain ⟨a, b⟩ := e
    simp only [List.map_cons, List.nodup_cons] at hn
    rcases List.mem_cons.1 h with he | hr
    · cases he; simp [lookup]
    · have : a ≠ k := fun hk => hn.1 (hk ▸ List.mem_map_of_mem (f := Prod.fst) hr)
      simp [lookup, this, ih hn.2 hr]

theorem mem_of_lookup_eq_some {k : κ} {v : ν} {l : List (κ × ν)} (h : lookup k l = some v) :
    (k, v) ∈ l := by
  induction l with
  | nil => simp [lookup] at h
  | cons e rest ih =>
    obtain ⟨a, b⟩ := e
    by_cases ha : a = k
    · simp only [lookup, ha, if_true, Option.some.injEq] at h; simp [ha, h]
    · simp only [lookup, ha, if_false] at h; exact List.mem_cons_of_mem _ (ih h)

/-- Reading a key and membership of the entry agree. -/
theorem get?_eq_some_iff {m : OrderedMap κ ν} {k : κ} {v : ν} :
    m.get? k = some v ↔ (k, v) ∈ m.entries :=
  ⟨mem_of_lookup_eq_some, lookup_eq_some_of_mem m.nodup⟩

theorem isEmpty_of_get? {m : OrderedMap κ ν} {k : κ} {v : ν} (h : m.get? k = some v) : m.isEmpty = false := by
  unfold isEmpty
  rw [List.isEmpty_eq_false_iff]
  exact List.ne_nil_of_mem (get?_eq_some_iff.1 h)

theorem entries_insertAll {m : OrderedMap κ ν} {pairs : List (κ × ν)}
    (h : (m.entries ++ pairs).map Prod.fst |>.Nodup) : (m.insertAll pairs).entries = m.entries ++ pairs := by
  induction pairs generalizing m with
  | nil => simp [insertAll]
  | cons e rest ih =>
    have hnew : e.1 ∉ m.keys := by
      intro hmem
      rw [List.map_append, List.nodup_append] at h
      exact h.2.2 e.1 hmem e.1 (by simp) rfl
    have hentries := entries_insert_of_notMem e.2 hnew
    show ((m.insert e.1 e.2).insertAll rest).entries = _
    rw [ih (by rw [hentries]; simpa using h), hentries, List.append_assoc]
    rfl

/-- Pairs with different keys are the entries of the map built from them. -/
theorem entries_ofList {pairs : List (κ × ν)} (h : (pairs.map Prod.fst).Nodup) : (ofList pairs).entries = pairs :=
  entries_insertAll (m := empty) h

end OrderedMap

end CriteriaStore
