import CriteriaStore.Proofs.Mapping.Flattening

/-!
# Paths of nested objects

A path joins names with dots and says nothing of where one name ends. When no name is empty or has a dot in it, a path still
stands for one list of names (`Json.dotted_inj`), so that the leaves of an object have different paths and none of them is
overwritten: the path of some names has the scalar of the leaf to which the names lead, or nothing when they lead to none
(`Json.leaves_faithful`).
-/

namespace CriteriaStore.Json

/-- Whether a value is an object. -/
def IsObject : Json → Prop
  | object _ => True
  | _ => False

/-! ### Names -/

/-- Whether a name is not empty and has no dot in it. -/
def IsPlainName (name : String) : Prop := name ≠ "" ∧ '.' ∉ name.toList

mutual

/-- Whether the members of each object in a value have different names, all of them plain. -/
def Plain : Json → Prop
  | object members => PlainMembers members
  | _ => True

/-- Whether members have different names, all of them plain, and plain values. -/
def PlainMembers : List (String × Json) → Prop
  | [] => True
  | (k, v) :: rest => IsPlainName k ∧ k ∉ rest.map Prod.fst ∧ Plain v ∧ PlainMembers rest

end

/-- The path that some names make. -/
def dotted (names : List String) : String := ".".intercalate names

theorem toList_dotted (names : List String) : (dotted names).toList = ['.'].intercalate (names.map String.toList) :=
  String.toList_intercalate

/-- Splitting a path at its dots gives the names back. -/
theorem splitOn_dotted {names : List String} (hne : names ≠ []) (h : ∀ n ∈ names, IsPlainName n) :
    (dotted names).toList.splitOn '.' = names.map String.toList := by
  rw [toList_dotted]
  apply List.splitOn_intercalate
  · intro cs hcs
    obtain ⟨n, hn, rfl⟩ := List.mem_map.1 hcs
    exact (h n hn).2
  · exact fun hnil => hne (List.map_eq_nil_iff.1 hnil)

/-- Plain names are told from their path. -/
theorem dotted_inj {names names' : List String} (hne : names ≠ []) (hne' : names' ≠ [])
    (h : ∀ n ∈ names, IsPlainName n) (h' : ∀ n ∈ names', IsPlainName n) :
    dotted names = dotted names' ↔ names = names' := by
  refine ⟨fun hsame => ?_, congrArg dotted⟩
  have hsplit := splitOn_dotted hne h
  rw [hsame, splitOn_dotted hne' h'] at hsplit
  exact (List.map_inj_right fun _ _ => String.toList_inj.1).1 hsplit.symm

/-- Below a path that is not empty, every name is put behind a dot. -/
private theorem foldl_memberPath {path : String} (hpath : path ≠ "") (names : List String) :
    names.foldl memberPath path = dotted (path :: names) := by
  induction names generalizing path with
  | nil => exact String.intercalate_singleton.symm
  | cons k rest ih =>
    have hmember : memberPath path k = path ++ "." ++ k := by
      unfold memberPath
      rw [if_neg (by simpa using hpath)]
    have hne : path ++ "." ++ k ≠ "" := by simp [hpath]
    rw [List.foldl_cons, hmember, ih hne]
    unfold dotted
    rw [String.intercalate_cons_append, String.intercalate_cons_cons]

/-- The empty path of the root adds no dot, so the path of a member is made of the names that lead to it. -/
theorem foldl_memberPath_root {names : List String} (h : ∀ n ∈ names, IsPlainName n) :
    names.foldl memberPath "" = dotted names := by
  cases names with
  | nil => rfl
  | cons k rest =>
    have hroot : memberPath "" k = k := rfl
    rw [List.foldl_cons, hroot, foldl_memberPath (h k List.mem_cons_self).1]

/-! ### The names that lead to a leaf -/

/-- The value to which some names lead, from object to object. -/
def follow : List String → Json → Option Json
  | [], v => some v
  | k :: names, object members => (member? k members).bind (follow names)
  | _ :: _, _ => none

mutual

/-- The leaves of a value, each with the names that lead to it, in document order. -/
def routes : Json → List (List String × Json)
  | object members => memberRoutes members
  | v => [([], v)]

/-- The leaves of the members of an object. -/
def memberRoutes : List (String × Json) → List (List String × Json)
  | [] => []
  | (k, v) :: rest => (routes v).map (fun e => (k :: e.1, e.2)) ++ memberRoutes rest

end

mutual

/-- A leaf stands under the path that grows by the names that lead to it. -/
theorem leaves_eq (path : String) :
    (v : Json) → v.leaves path = v.routes.map fun e => (e.1.foldl memberPath path, Scalar.ofJson e.2)
  | object members => memberLeaves_eq path members
  | null | bool _ | number _ | string _ | array _ => rfl

theorem memberLeaves_eq (path : String) :
    (members : List (String × Json)) →
      memberLeaves path members = (memberRoutes members).map fun e => (e.1.foldl memberPath path, Scalar.ofJson e.2)
  | [] => rfl
  | (k, v) :: rest => by
    rw [memberLeaves, memberRoutes, List.map_append, List.map_map, leaves_eq, memberLeaves_eq]
    rfl

end

section Members

variable {members : List (String × Json)} {k : String} {v w : Json} {names : List String}

theorem mem_of_member? (h : member? k members = some v) : (k, v) ∈ members := by
  induction members with
  | nil => cases h
  | cons e rest ih =>
    obtain ⟨k', v'⟩ := e
    unfold member? at h
    split at h
    · next hk =>
      obtain rfl := Option.some.inj h
      rw [hk]
      exact List.mem_cons_self
    · exact List.mem_cons_of_mem _ (ih h)

theorem PlainMembers.of_mem (h : PlainMembers members) {e : String × Json} (he : e ∈ members) :
    IsPlainName e.1 ∧ e.2.Plain := by
  induction members with
  | nil => cases he
  | cons e' rest ih =>
    obtain ⟨hname, -, hvalue, hrest⟩ := h
    rcases List.mem_cons.1 he with rfl | he
    · exact ⟨hname, hvalue⟩
    · exact ih hrest he

theorem nil_notMem_memberRoutes : ([], w) ∉ memberRoutes members := by
  induction members with
  | nil => exact List.not_mem_nil
  | cons e rest ih =>
    rw [memberRoutes, List.mem_append, not_or]
    refine ⟨fun h => ?_, ih⟩
    obtain ⟨_, -, he⟩ := List.mem_map.1 h
    exact List.cons_ne_nil _ _ (congrArg Prod.fst he)

theorem mem_keys_of_mem_memberRoutes (h : (k :: names, w) ∈ memberRoutes members) : k ∈ members.map Prod.fst := by
  induction members with
  | nil => cases h
  | cons e rest ih =>
    rw [memberRoutes, List.mem_append] at h
    rcases h with h | h
    · obtain ⟨_, -, he⟩ := List.mem_map.1 h
      rw [← (List.cons.inj (congrArg Prod.fst he)).1]
      exact List.mem_cons_self
    · exact List.mem_cons_of_mem _ (ih h)

/-- A leaf below a member is a leaf of the value that the member has. -/
theorem mem_memberRoutes (h : PlainMembers members) :
    (k :: names, w) ∈ memberRoutes members ↔ ∃ v, member? k members = some v ∧ (names, w) ∈ v.routes := by
  induction members with
  | nil => simp [memberRoutes, member?]
  | cons e rest ih =>
    obtain ⟨k', v'⟩ := e
    obtain ⟨-, hnew, -, hrest⟩ := h
    rw [memberRoutes, List.mem_append]
    by_cases hk : k' = k
    · subst hk
      have hother : (k' :: names, w) ∉ memberRoutes rest := fun h => hnew (mem_keys_of_mem_memberRoutes h)
      simp [member?, hother]
    · have hother : (k :: names, w) ∉ (routes v').map fun e => (k' :: e.1, e.2) := by
        simp [hk]
      simp [member?, hk, hother, ih hrest]

end Members

/-- The leaves are the values that names lead to and that are no objects. -/
theorem mem_routes {v w : Json} (h : v.Plain) {names : List String} :
    (names, w) ∈ v.routes ↔ follow names v = some w ∧ ¬w.IsObject := by
  induction names generalizing v with
  | nil =>
    cases v with
    | object members =>
      refine iff_of_false nil_notMem_memberRoutes ?_
      rintro ⟨hsame, hleaf⟩
      obtain rfl := Option.some.inj hsame
      exact hleaf trivial
    | _ =>
      rw [routes, List.mem_singleton]
      · constructor
        · intro he
          obtain rfl : w = _ := congrArg Prod.snd he
          exact ⟨rfl, id⟩
        · rintro ⟨hsame, -⟩
          obtain rfl := Option.some.inj hsame
          rfl
      · nofun
  | cons k names ih =>
    cases v with
    | object members =>
      rw [routes, mem_memberRoutes h, follow]
      cases hmember : member? k members with
      | none => simp
      | some v' =>
        have hplain : v'.Plain := (PlainMembers.of_mem h (mem_of_member? hmember)).2
        simp [ih hplain]
    | _ => simp [routes, follow]

mutual

/-- No two leaves are led to by the same names. -/
theorem nodup_routes : {v : Json} → v.Plain → (v.routes.map Prod.fst).Nodup
  | object _, h => nodup_memberRoutes h
  | null, _ | bool _, _ | number _, _ | string _, _ | array _, _ => List.nodup_singleton _

theorem nodup_memberRoutes : {members : List (String × Json)} → PlainMembers members →
    ((memberRoutes members).map Prod.fst).Nodup
  | [], _ => List.nodup_nil
  | (k, v) :: rest, ⟨_, hnew, hvalue, hrest⟩ => by
    have hfirst : ((routes v).map fun e => k :: e.1).Nodup := by
      rw [← Function.comp_def (List.cons k), ← List.map_map]
      exact (nodup_routes hvalue).map fun _ _ hsame => (List.cons.inj hsame).2
    rw [memberRoutes, List.map_append, List.map_map]
    refine hfirst.append (nodup_memberRoutes hrest) ?_
    -- the names to the other leaves start with another name
    intro names hmem hmem'
    obtain ⟨e, -, rfl⟩ := List.mem_map.1 hmem
    obtain ⟨e', he', hsame⟩ := List.mem_map.1 hmem'
    have hroute : (k :: e.1, e'.2) ∈ memberRoutes rest := by
      rwa [← hsame]
    exact hnew (mem_keys_of_mem_memberRoutes hroute)

end

mutual

theorem isPlainName_of_mem_routes : {v : Json} → v.Plain → ∀ e ∈ v.routes, ∀ n ∈ e.1, IsPlainName n
  | object _, h => isPlainName_of_mem_memberRoutes h
  | null, _ | bool _, _ | number _, _ | string _, _ | array _, _ => by simp [routes]

theorem isPlainName_of_mem_memberRoutes : {members : List (String × Json)} → PlainMembers members →
    ∀ e ∈ memberRoutes members, ∀ n ∈ e.1, IsPlainName n
  | [], _ => by simp [memberRoutes]
  | (k, v) :: rest, ⟨hname, _, hvalue, hrest⟩ => by
    intro e he n hn
    rw [memberRoutes, List.mem_append] at he
    rcases he with he | he
    · obtain ⟨e', he', rfl⟩ := List.mem_map.1 he
      rcases List.mem_cons.1 hn with rfl | hn
      · exact hname
      · exact isPlainName_of_mem_routes hvalue e' he' n hn
    · exact isPlainName_of_mem_memberRoutes hrest e he n hn

end

/-! ### Paths against names -/

/-- Below an object with plain names every leaf stands under the path of the names that lead to it. -/
theorem leaves_eq_routes {v : Json} (h : v.Plain) :
    v.leaves "" = v.routes.map fun e => (dotted e.1, Scalar.ofJson e.2) := by
  rw [leaves_eq]
  refine List.map_congr_left fun e he => ?_
  rw [foldl_memberPath_root (isPlainName_of_mem_routes h e he)]

/-- The leaves of an object with plain names have different paths. -/
theorem nodup_paths {members : List (String × Json)} (h : (object members).Plain) :
    (((object members).leaves "").map Prod.fst).Nodup := by
  have hpaths : ((object members).leaves "").map Prod.fst = ((object members).routes.map Prod.fst).map dotted := by
    rw [leaves_eq_routes h, List.map_map, List.map_map]
    rfl
  have hnames : ∀ names ∈ (object members).routes.map Prod.fst, names ≠ [] ∧ ∀ n ∈ names, IsPlainName n := by
    intro names hnames
    obtain ⟨e, he, rfl⟩ := List.mem_map.1 hnames
    refine ⟨fun hnil => ?_, isPlainName_of_mem_routes h e he⟩
    have hroute : ([], e.2) ∈ memberRoutes members := hnil ▸ he
    exact nil_notMem_memberRoutes hroute
  rw [hpaths]
  refine List.Nodup.map_on (fun names hmem names' hmem' hsame => ?_) (nodup_routes h)
  obtain ⟨hne, hplain⟩ := hnames names hmem
  obtain ⟨hne', hplain'⟩ := hnames names' hmem'
  exact (dotted_inj hne hne' hplain hplain').1 hsame

/-- In an object whose names, at every depth, are not empty and have no dot, no two leaves have the same path. So nothing is
overwritten, whether the leaves are listed or gathered on the way: there is one entry for each leaf, in document order, under
the path of the names that lead to it, and the leaves are just the values that names lead to and that are no objects. The
path of any such names has a scalar exactly when they lead to a leaf with this scalar. -/
theorem leaves_faithful {members : List (String × Json)} (h : (object members).Plain) :
    (((object members).leaves "").map Prod.fst).Nodup ∧
      gather "" .empty (object members) = OrderedMap.ofList ((object members).leaves "") ∧
      (OrderedMap.ofList ((object members).leaves "")).entries =
        (object members).routes.map (fun e => (dotted e.1, Scalar.ofJson e.2)) ∧
      (OrderedMap.ofList ((object members).leaves "")).size = (object members).routes.length ∧
      (∀ names w, (names, w) ∈ (object members).routes ↔ follow names (object members) = some w ∧ ¬w.IsObject) ∧
      ∀ names, names ≠ [] → (∀ n ∈ names, IsPlainName n) → ∀ s,
        (OrderedMap.ofList ((object members).leaves "")).get? (dotted names) = some s ↔
          ∃ w, follow names (object members) = some w ∧ ¬w.IsObject ∧ Scalar.ofJson w = s := by
  have hpaths := nodup_paths h
  have hentries := (OrderedMap.entries_ofList hpaths).trans (leaves_eq_routes h)
  refine ⟨hpaths, gather_eq "" .empty _, hentries, ?_, fun names w => mem_routes h, ?_⟩
  · unfold OrderedMap.size
    rw [hentries, List.length_map]
  · intro names hne hplain s
    rw [OrderedMap.get?_eq_some_iff, hentries, List.mem_map]
    constructor
    · rintro ⟨⟨names', w⟩, hroute, he⟩
      obtain ⟨hsame, hs⟩ := Prod.mk.inj he
      have hne' : names' ≠ [] := by
        rintro rfl
        exact nil_notMem_memberRoutes hroute
      obtain rfl := (dotted_inj hne' hne (isPlainName_of_mem_routes h _ hroute) hplain).1 hsame
      obtain ⟨hfollow, hleaf⟩ := (mem_routes h).1 hroute
      exact ⟨w, hfollow, hleaf, hs⟩
    · rintro ⟨w, hfollow, hleaf, rfl⟩
      exact ⟨(names, w), (mem_routes h).2 ⟨hfollow, hleaf⟩, rfl⟩

/-- An object in an object, an empty one, and an array. -/
theorem leaves_faithful_of_nested :
    let members : List (String × Json) := [
      ("a", .object [("b", .bool true), ("c", .object []), ("d", .object [("b", .null)])]),
      ("b", .array [.object [("x.y", .null)]])]
    let flat := OrderedMap.ofList ((object members).leaves "")
    (object members).Plain ∧ flat.size = 3 ∧ flat.get? "a.d.b" = some .null ∧ flat.get? "a.d" = none := by
  intro members flat
  have h : (object members).Plain := by
    simp [members, Plain, PlainMembers, IsPlainName]
  obtain ⟨-, -, -, hsize, -, hget⟩ := leaves_faithful h
  have hplain : ∀ n ∈ ["a", "d", "b"], IsPlainName n := by
    simp [IsPlainName]
  refine ⟨h, hsize, ?_, ?_⟩
  · exact (hget ["a", "d", "b"] (List.cons_ne_nil _ _) hplain .null).2 ⟨.null, rfl, id, rfl⟩
  · refine Option.eq_none_iff_forall_ne_some.2 fun s hs => ?_
    have hshort : ∀ n ∈ ["a", "d"], IsPlainName n := by
      simp [IsPlainName]
    obtain ⟨w, hfollow, hleaf, -⟩ := (hget ["a", "d"] (List.cons_ne_nil _ _) hshort s).1 hs
    obtain rfl := Option.some.inj hfollow
    exact hleaf trivial

/-- A name with a dot and a name that is empty make paths that others have too. -/
example : ((object [("a", object [("b", null)]), ("a.b", null)]).leaves "").map Prod.fst = ["a.b", "a.b"] ∧
    ((object [("", object [("a", null)]), ("a", null)]).leaves "").map Prod.fst = ["a", "a"] := by
  decide +kernel

end CriteriaStore.Json
