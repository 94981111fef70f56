import CriteriaStore.Mapping.Flattening
import Mathlib.Data.List.Dedup
import Mathlib.Data.List.Induction

/-!
# What flattening reads

The serialized flattener against the list of leaves. A property is read from the last leaf of its path and a column from the
last property mapped to it (`LastUnder`), and the first property that is the path of no leaf is the error
(`Flattener.serialized_reads`).

The leaves may be put into the map while the value is walked (`Json.gather`), and a property may be taken out of the map
when it is read, the last entry moving into its place (`Flattener.drain`): no property is read twice, so the row is the same
(`Flattener.drained_eq`).
-/

namespace CriteriaStore

/-- Whether a value is the last one under a key. -/
def LastUnder {κ ν : Type} (l : List (κ × ν)) (k : κ) (v : ν) : Prop :=
  ∃ before after, l = before ++ (k, v) :: after ∧ k ∉ after.map Prod.fst

section LastUnder

variable {κ ν μ : Type} {k : κ} {l : List (κ × ν)} {v : ν}

theorem lastUnder_cons {e : κ × ν} :
    LastUnder (e :: l) k v ↔ LastUnder l k v ∨ e = (k, v) ∧ k ∉ l.map Prod.fst := by
  constructor
  · rintro ⟨before, after, he, hafter⟩
    cases before with
    | nil =>
      obtain ⟨rfl, rfl⟩ := List.cons.inj he
      exact .inr ⟨rfl, hafter⟩
    | cons e' before => exact .inl ⟨before, after, (List.cons.inj he).2, hafter⟩
  · rintro (⟨before, after, rfl, hafter⟩ | ⟨rfl, hl⟩)
    · exact ⟨e :: before, after, rfl, hafter⟩
    · exact ⟨[], l, rfl, hl⟩

theorem LastUnder.mem (h : LastUnder l k v) : (k, v) ∈ l := by
  obtain ⟨before, after, rfl, -⟩ := h
  exact List.mem_append_right _ List.mem_cons_self

theorem exists_lastUnder : (∃ v, LastUnder l k v) ↔ k ∈ l.map Prod.fst := by
  constructor
  · rintro ⟨v, h⟩
    exact List.mem_map_of_mem h.mem
  · intro h
    induction l with
    | nil => cases h
    | cons e rest ih =>
      by_cases hrest : k ∈ rest.map Prod.fst
      · obtain ⟨v, hv⟩ := ih hrest
        exact ⟨v, lastUnder_cons.2 (.inl hv)⟩
      · obtain rfl : k = e.1 := (List.mem_cons.1 h).resolve_right hrest
        exact ⟨e.2, lastUnder_cons.2 (.inr ⟨rfl, hrest⟩)⟩

/-- The last value under a key stays the last one when the values are changed. -/
theorem lastUnder_map (g : ν → μ) {w : μ} :
    LastUnder (l.map fun e => (e.1, g e.2)) k w ↔ ∃ v, LastUnder l k v ∧ g v = w := by
  induction l with
  | nil =>
    constructor
    · intro h
      cases h.mem
    · rintro ⟨v, h, -⟩
      cases h.mem
  | cons e rest ih =>
    have hkeys : (rest.map fun e => (e.1, g e.2)).map Prod.fst = rest.map Prod.fst := List.map_map
    rw [List.map_cons, lastUnder_cons, ih, hkeys]
    simp only [lastUnder_cons, or_and_right, exists_or]
    refine or_congr_right ?_
    constructor
    · rintro ⟨he, hk⟩
      obtain ⟨rfl, rfl⟩ := Prod.mk.inj he
      exact ⟨e.2, ⟨rfl, hk⟩, rfl⟩
    · rintro ⟨v, ⟨rfl, hk⟩, rfl⟩
      exact ⟨rfl, hk⟩

end LastUnder

namespace OrderedMap

variable {κ ν : Type} [DecidableEq κ] {k : κ} {v : ν}

theorem get?_insertAll {m : OrderedMap κ ν} {l : List (κ × ν)} :
    (m.insertAll l).get? k = some v ↔ LastUnder l k v ∨ k ∉ l.map Prod.fst ∧ m.get? k = some v := by
  induction l generalizing m with
  | nil =>
    constructor
    · intro h
      exact .inr ⟨List.not_mem_nil, h⟩
    · rintro (h | ⟨-, h⟩)
      · cases h.mem
      · exact h
  | cons e rest ih =>
    show ((m.insert e.1 e.2).insertAll rest).get? k = some v ↔ _
    rw [ih, lastUnder_cons, get?_insert, List.map_cons, List.mem_cons]
    by_cases hk : e.1 = k
    · subst hk
      have he : e = (e.1, v) ↔ e.2 = v := by
        constructor
        · intro h
          exact congrArg Prod.snd h
        · rintro rfl
          rfl
      simp [he, and_comm]
    · have he : e ≠ (k, v) := fun h => hk (congrArg Prod.fst h)
      simp [hk, Ne.symm hk, he]

/-- A map built from pairs has the last value under each key. -/
theorem get?_ofList {l : List (κ × ν)} : (ofList l).get? k = some v ↔ LastUnder l k v := by
  unfold ofList
  rw [get?_insertAll]
  refine or_iff_left ?_
  rintro ⟨-, h⟩
  cases h

/-- A map built from pairs has their keys in the order in which they come first. -/
theorem keys_ofList (l : List (κ × ν)) : (ofList l).keys = (l.map Prod.fst).eraseDups := by
  -- from the end of the list, since the pair that is inserted last finds the keys of all others
  induction l using List.reverseRecOn with
  | nil => rfl
  | append_singleton l e ih =>
    have hlast : ofList (l ++ [e]) = (ofList l).insert e.1 e.2 := List.foldl_append
    rw [hlast, List.map_append, List.eraseDups_append, ← ih]
    by_cases he : e.1 ∈ (ofList l).keys
    · have hmem : e.1 ∈ l.map Prod.fst := by rwa [ih, List.mem_eraseDups] at he
      rw [keys_insert_of_mem _ he]
      simp [List.removeAll, hmem]
    · have hmem : e.1 ∉ l.map Prod.fst := by rwa [ih, List.mem_eraseDups] at he
      unfold keys
      rw [entries_insert_of_notMem _ he]
      simp [List.removeAll, hmem, List.eraseDups_cons]

/-! ### Taking an entry out -/

/-- An entry list without a key, the last entry in its place. -/
def swapOut (k : κ) : List (κ × ν) → List (κ × ν)
  | [] => []
  | e :: rest =>
    if e.1 = k then
      match rest.getLast? with
      | some last => last :: rest.dropLast
      | none => []
    else e :: swapOut k rest

theorem swapOut_perm {l : List (κ × ν)} (h : (l.map Prod.fst).Nodup) :
    (swapOut k l).Perm (l.filter fun e => e.1 ≠ k) := by
  induction l with
  | nil => exact .nil
  | cons e rest ih =>
    obtain ⟨he, hrest⟩ := List.nodup_cons.1 h
    unfold swapOut
    split
    · next hk =>
      subst hk
      have hall : rest.filter (fun e' => e'.1 ≠ e.1) = rest := by
        refine List.filter_eq_self.2 fun e' he' => decide_eq_true ?_
        intro hsame
        exact he (hsame ▸ List.mem_map_of_mem he')
      rw [List.filter_cons_of_neg (by simp), hall]
      split
      · next last hlast =>
        obtain ⟨front, rfl⟩ := List.getLast?_eq_some_iff.1 hlast
        rw [List.dropLast_concat]
        exact (List.perm_append_singleton last front).symm
      · next hnone =>
        rw [List.getLast?_eq_none_iff.1 hnone]
    · next hk =>
      rw [List.filter_cons_of_pos (by simpa using hk)]
      exact (ih hrest).cons e

/-- Remove a key; the last entry takes its place. -/
def swapRemove (m : OrderedMap κ ν) (k : κ) : OrderedMap κ ν where
  entries := swapOut k m.entries
  nodup := by
    refine ((swapOut_perm m.nodup).map Prod.fst).nodup_iff.2 ?_
    exact m.nodup.sublist (List.filter_sublist.map Prod.fst)

theorem get?_swapRemove_of_ne {m : OrderedMap κ ν} {k' : κ} (h : k' ≠ k) : (m.swapRemove k).get? k' = m.get? k' := by
  refine Option.ext fun v => ?_
  rw [get?_eq_some_iff, get?_eq_some_iff]
  show (k', v) ∈ swapOut k m.entries ↔ _
  rw [(swapOut_perm m.nodup).mem_iff, List.mem_filter]
  exact and_iff_left (decide_eq_true h)

end OrderedMap

/-! ### Leaves on the way -/

namespace Json

mutual

/-- Put the leaves of a value below a path into a map, one by one. -/
def gather (path : String) (flat : OrderedMap String Scalar) : Json → OrderedMap String Scalar
  | object members => gatherMembers path flat members
  | v => flat.insert path (Scalar.ofJson v)

/-- Put the leaves of the members of an object into a map, member by member. -/
def gatherMembers (path : String) (flat : OrderedMap String Scalar) : List (String × Json) → OrderedMap String Scalar
  | [] => flat
  | (k, v) :: rest => gatherMembers path (gather (memberPath path k) flat v) rest

end

mutual

/-- One map that goes through a value gets its leaves in document order. -/
theorem gather_eq (path : String) (flat : OrderedMap String Scalar) :
    (v : Json) → gather path flat v = flat.insertAll (v.leaves path)
  | object members => gatherMembers_eq path flat members
  | null | bool _ | number _ | string _ | array _ => rfl

theorem gatherMembers_eq (path : String) (flat : OrderedMap String Scalar) :
    (members : List (String × Json)) → gatherMembers path flat members = flat.insertAll (memberLeaves path members)
  | [] => rfl
  | (k, v) :: rest => by
    rw [gatherMembers, memberLeaves, gather_eq, gatherMembers_eq]
    exact List.foldl_append.symm

end

end Json

namespace Flattener

variable {table : String} {flat flat' : OrderedMap String Scalar} {entries : List (String × String)} {row : Row}

/-! ### One property after another -/

theorem collect_congr (h : ∀ e ∈ entries, flat.get? e.1 = flat'.get? e.1) :
    collect table flat entries row = collect table flat' entries row := by
  induction entries generalizing row with
  | nil => rfl
  | cons e rest ih =>
    obtain ⟨hfirst, hrest⟩ := List.forall_mem_cons.1 h
    unfold collect
    rw [hfirst]
    cases flat'.get? e.1 with
    | none => rfl
    | some v => exact ih hrest

private theorem collect_of_exposed (h : ∀ e ∈ entries, (flat.get? e.1).isSome) :
    collect table flat entries row = .ok (row.insertAll (entries.map fun e => (e.2, (flat.get? e.1).getD .null))) := by
  induction entries generalizing row with
  | nil => rfl
  | cons e rest ih =>
    obtain ⟨hfirst, hrest⟩ := List.forall_mem_cons.1 h
    obtain ⟨v, hv⟩ := Option.isSome_iff_exists.1 hfirst
    unfold collect
    simp only [hv]
    rw [ih hrest, List.map_cons, hv]
    rfl

private theorem collect_of_hidden {before after : List (String × String)} {p c : String}
    (hbefore : ∀ e ∈ before, (flat.get? e.1).isSome) (hp : flat.get? p = none) :
    collect table flat (before ++ (p, c) :: after) row = .error (.unflattenable table (.notExposed p)) := by
  induction before generalizing row with
  | nil =>
    rw [List.nil_append, collect]
    simp only [hp]
  | cons e rest ih =>
    obtain ⟨hfirst, hrest⟩ := List.forall_mem_cons.1 hbefore
    obtain ⟨v, hv⟩ := Option.isSome_iff_exists.1 hfirst
    rw [List.cons_append, collect]
    simp only [hv]
    exact ih hrest

/-! ### Reading and removing -/

/-- The columns of the listed properties, each taken out of the leaves when it is read. -/
def drain (table : String) : OrderedMap String Scalar → List (String × String) → Row → Except CriteriaError Row
  | _, [], row => .ok row
  | flat, (property, column) :: rest, row =>
    match flat.get? property with
    | some v => drain table (flat.swapRemove property) rest (row.insert column v)
    | none => .error (.unflattenable table (.notExposed property))

private theorem drain_eq (h : (entries.map Prod.fst).Nodup) : drain table flat entries row = collect table flat entries row := by
  induction entries generalizing flat row with
  | nil => rfl
  | cons e rest ih =>
    obtain ⟨he, hrest⟩ := List.nodup_cons.1 h
    unfold drain collect
    cases flat.get? e.1 with
    | none => rfl
    | some v =>
      -- the other properties are other keys: the removal may move their leaves, but each is still found
      show drain table (flat.swapRemove e.1) rest _ = collect table flat rest _
      rw [ih hrest]
      refine collect_congr fun e' he' => OrderedMap.get?_swapRemove_of_ne ?_
      intro hsame
      exact he (hsame ▸ List.mem_map_of_mem he')

variable {ε : Type}

/-- The row read from the serialized entity: the leaves are gathered in one map, and each property is taken out of it. -/
def drained (serialize : ε → Except String Json) : Flattener ε := fun m e =>
  match serialize e with
  | .error text => .error (.unflattenable m.table (.serializer text))
  | .ok v => drain m.table (v.gather "" .empty) m.properties.entries .empty

/-- It makes no difference whether the leaves are listed first, or whether they are taken out when they are read. -/
theorem drained_eq (serialize : ε → Except String Json) : drained serialize = serialized serialize := by
  funext m e
  unfold drained serialized
  cases serialize e with
  | error text => rfl
  | ok v =>
    show drain _ (v.gather "" .empty) _ _ = collect _ (OrderedMap.ofList (v.leaves "")) _ _
    rw [drain_eq m.properties.nodup, Json.gather_eq]
    rfl

/-! ### The row -/

/-- The values of the columns, before they make a row. -/
private def values (flat : OrderedMap String Scalar) (entries : List (String × String)) : List (String × Scalar) :=
  entries.map fun e => (e.2, (flat.get? e.1).getD .null)

/-- A row that is collected has the columns in the order in which they come first, each with the last value of the last
property mapped to it. -/
private theorem get?_values {leaves : List (String × Scalar)} {column : String} {w : Scalar}
    (h : ∀ e ∈ entries, ((OrderedMap.ofList leaves).get? e.1).isSome) :
    (OrderedMap.ofList (values (OrderedMap.ofList leaves) entries)).get? column = some w ↔
      ∃ p, LastUnder (entries.map Prod.swap) column p ∧ LastUnder leaves p w := by
  have hswap : values (OrderedMap.ofList leaves) entries =
      (entries.map Prod.swap).map fun e => (e.1, ((OrderedMap.ofList leaves).get? e.2).getD .null) := by
    rw [List.map_map]
    rfl
  rw [OrderedMap.get?_ofList, hswap, lastUnder_map fun p => ((OrderedMap.ofList leaves).get? p).getD .null]
  refine exists_congr fun p => and_congr_right fun hp => ?_
  obtain ⟨e, he, hswapped⟩ := List.mem_map.1 hp.mem
  obtain rfl : e.1 = p := congrArg Prod.snd hswapped
  obtain ⟨v, hv⟩ := Option.isSome_iff_exists.1 (h e he)
  rw [← OrderedMap.get?_ofList, hv, Option.getD_some, Option.some.injEq]

private theorem isSome_get?_ofList {leaves : List (String × Scalar)} {p : String} :
    ((OrderedMap.ofList leaves).get? p).isSome ↔ p ∈ leaves.map Prod.fst := by
  rw [Option.isSome_iff_exists, ← exists_lastUnder]
  simp only [OrderedMap.get?_ofList]

/-- What collecting from a list of leaves comes to: every property is a path, or there is a first one that is not. -/
private theorem collect_cases (table : String) (leaves : List (String × Scalar)) (entries : List (String × String)) :
    ((∀ e ∈ entries, e.1 ∈ leaves.map Prod.fst) ∧
        collect table (OrderedMap.ofList leaves) entries .empty =
          .ok (OrderedMap.ofList (values (OrderedMap.ofList leaves) entries))) ∨
      ∃ before p c after, entries = before ++ (p, c) :: after ∧ (∀ e ∈ before, e.1 ∈ leaves.map Prod.fst) ∧
        p ∉ leaves.map Prod.fst ∧
        collect table (OrderedMap.ofList leaves) entries .empty = .error (.unflattenable table (.notExposed p)) := by
  simp only [← isSome_get?_ofList]
  cases hfirst : entries.find? fun e => ((OrderedMap.ofList leaves).get? e.1).isNone with
  | none =>
    have hall : ∀ e ∈ entries, ((OrderedMap.ofList leaves).get? e.1).isSome := fun e he => by
      simpa [Option.isSome_iff_ne_none] using List.find?_eq_none.1 hfirst e he
    exact .inl ⟨hall, collect_of_exposed hall⟩
  | some e =>
    obtain ⟨hnone, before, after, rfl, hbefore⟩ := List.find?_eq_some_iff_append.1 hfirst
    have hexposed : ∀ e ∈ before, ((OrderedMap.ofList leaves).get? e.1).isSome := fun e he => by
      simpa using hbefore e he
    rw [Option.isNone_iff_eq_none] at hnone
    exact .inr ⟨before, e.1, e.2, after, rfl, hexposed, by simp [hnone], collect_of_hidden hexposed hnone⟩

private theorem serialized_eq {serialize : ε → Except String Json} {e : ε} {v : Json} (h : serialize e = .ok v)
    (m : Mapping ε) :
    serialized serialize m e = collect m.table (OrderedMap.ofList (v.leaves "")) m.properties.entries .empty := by
  unfold serialized
  rw [h]

/-- Flattening a serialized entity succeeds exactly when every property is the path of a leaf, and else the error names the
first property that is none. The row has the mapped columns in the order in which they come first and nothing else, each
with the scalar of the last leaf of the last property mapped to it; so entities with the same last leaves under all mapped
properties flatten alike. -/
theorem serialized_reads {serialize : ε → Except String Json} {e : ε} {v : Json} (h : serialize e = .ok v) (m : Mapping ε) :
    ((∃ row, serialized serialize m e = .ok row) ↔ ∀ p ∈ m.properties.keys, p ∈ (v.leaves "").map Prod.fst) ∧
      (∀ error, serialized serialize m e = .error error →
        ∃ before p c after, m.properties.entries = before ++ (p, c) :: after ∧
          (∀ x ∈ before, x.1 ∈ (v.leaves "").map Prod.fst) ∧ p ∉ (v.leaves "").map Prod.fst ∧
          error = .unflattenable m.table (.notExposed p)) ∧
      (∀ row, serialized serialize m e = .ok row →
        row.keys = m.properties.columns.eraseDups ∧
          ∀ column w, row.get? column = some w ↔
            ∃ p, LastUnder (m.properties.entries.map Prod.swap) column p ∧ LastUnder (v.leaves "") p w) ∧
      (∀ e' v', serialize e' = .ok v' →
        (∀ p ∈ m.properties.keys, ∀ w, LastUnder (v.leaves "") p w ↔ LastUnder (v'.leaves "") p w) →
        serialized serialize m e' = serialized serialize m e) ∧
      drained serialize m e = serialized serialize m e := by
  have hserialized := serialized_eq h m
  have hcases := collect_cases m.table (v.leaves "") m.properties.entries
  refine ⟨⟨?_, ?_⟩, ?_, ?_, ?_, congrFun (congrFun (drained_eq serialize) m) e⟩
  · rintro ⟨row, hrow⟩
    rw [hserialized] at hrow
    obtain ⟨hall, -⟩ | ⟨_, _, _, _, _, _, _, herror⟩ := hcases
    · exact List.forall_mem_map.2 hall
    · rw [herror] at hrow
      cases hrow
  · intro hall
    obtain ⟨-, hok⟩ | ⟨before, p, c, after, hentries, -, hp, -⟩ := hcases
    · exact ⟨_, hserialized.trans hok⟩
    · have hmem : p ∈ m.properties.keys := by
        unfold OrderedMap.keys
        rw [hentries]
        simp
      exact absurd (hall p hmem) hp
  · intro error hfails
    rw [hserialized] at hfails
    obtain ⟨-, hok⟩ | ⟨before, p, c, after, hentries, hbefore, hp, herror⟩ := hcases
    · rw [hok] at hfails
      cases hfails
    · rw [herror] at hfails
      exact ⟨before, p, c, after, hentries, hbefore, hp, (Except.error.inj hfails).symm⟩
  · intro row hrow
    rw [hserialized] at hrow
    obtain ⟨hall, hok⟩ | ⟨_, _, _, _, _, _, _, herror⟩ := hcases
    · rw [hok] at hrow
      obtain rfl := Except.ok.inj hrow
      refine ⟨?_, fun column w => get?_values fun x hx => isSome_get?_ofList.2 (hall x hx)⟩
      rw [OrderedMap.keys_ofList, values, List.map_map]
      rfl
    · rw [herror] at hrow
      cases hrow
  · intro e' v' h' hlast
    rw [hserialized, serialized_eq h']
    refine collect_congr fun x hx => Option.ext fun w => ?_
    rw [OrderedMap.get?_ofList, OrderedMap.get?_ofList]
    exact (hlast x.1 (List.mem_map_of_mem hx) w).symm

/-- A dotted key against a nested one, an empty object, a member of a member without name, and a column of two
properties. -/
theorem serialized_reads_of_collision :
    let v : Json := .object [
      ("a", .object [("b", .bool true), ("c", .object [])]),
      ("a.b", .array [.null]),
      ("", .object [("d", .null)])]
    let m : Mapping Json :=
      { table := "things"
        identity := "x"
        properties := OrderedMap.ofList [("d", "x"), ("a.b", "x")]
        identityOf := fun _ => .null
        toRow := fun _ => .empty
        ofRow? := fun row => some row.toJson }
    ∃ row, serialized .ok m v = .ok row ∧ row.keys = ["x"] ∧ row.get? "x" = some (.text "[null]") := by
  intro v m
  have hleaves : v.leaves "" = [("a.b", .bool true), ("a.b", .text "[null]"), ("d", .null)] := rfl
  have hserialize : (Except.ok v : Except String Json) = .ok v := rfl
  obtain ⟨hok, -, hrow, -⟩ := serialized_reads hserialize m
  obtain ⟨row, hserialized⟩ : ∃ row, serialized .ok m v = .ok row := by
    refine hok.2 ?_
    rw [hleaves]
    decide
  obtain ⟨hkeys, hvalues⟩ := hrow row hserialized
  refine ⟨row, hserialized, hkeys.trans (by decide), (hvalues _ _).2 ⟨"a.b", ⟨[("x", "d")], [], rfl, by decide⟩, ?_⟩⟩
  rw [hleaves]
  exact ⟨[("a.b", .bool true)], [("d", .null)], rfl, by decide⟩

end Flattener

end CriteriaStore
