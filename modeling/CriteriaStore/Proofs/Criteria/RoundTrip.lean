import CriteriaStore.Criteria.Decoding

/-!
# Criteria survive their JSON form

The JSON form of a criteria value reads back as that value (`decode_toJson`): a filter with its groups, empty ones
included, a sort order with its repeats, a field set, a page request and a page. All of them are read part by part, so
each part needs one lemma and a list of parts is read back when every item is (`list?_map`).

Floats that are infinite or no numbers have no JSON form of their own; they are excluded (`Scalar.IsFinite`).
-/

namespace CriteriaStore

/-! ### Finite values -/

/-- Whether a scalar is no float, or a finite one. -/
def Scalar.IsFinite : Scalar → Prop
  | float x => x.isFinite
  | _ => True

/-- The scalars of the conditions of a branch, those of conditions that ask for nothing included. -/
def Branch.values (b : Branch) : List Scalar :=
  b.groups.entries.flatMap fun (_, cs) => cs.flatMap fun c => c.operand.values

/-- Whether every float of a filter is finite. -/
def Filter.IsFinite (f : Filter) : Prop := ∀ clause, ∀ v ∈ (f.branch clause).values, v.IsFinite

/-- Whether every float of a page request is finite: it has some in its filter only. -/
def PageRequest.IsFinite (r : PageRequest) : Prop := ∀ f ∈ r.filter, f.IsFinite

/-- Whether every float of a page is finite, in its content as in its filter. -/
def Page.IsFinite (p : Page Scalar) : Prop := (∀ v ∈ p.content, v.IsFinite) ∧ ∀ f ∈ p.filter, f.IsFinite

/-! ### Parts -/

namespace Decoding

variable {α β : Type}

/-- A list is read when every item is. -/
theorem mapM_eq_some_map {read : α → Option β} {f : α → β} {xs : List α} (h : ∀ x ∈ xs, read x = some (f x)) :
    xs.mapM read = some (xs.map f) := by
  induction xs with
  | nil => rfl
  | cons x rest ih =>
    have hfirst := h x List.mem_cons_self
    have hrest := ih fun y hy => h y (List.mem_cons_of_mem _ hy)
    rw [List.mapM_cons, hfirst, hrest]
    rfl

/-- What is written item by item is read item by item. -/
theorem mapM_map {read : β → Option α} {write : α → β} {xs : List α} (h : ∀ x ∈ xs, read (write x) = some x) :
    (xs.map write).mapM read = some xs := by
  have hread : xs.mapM (read ∘ write) = some (xs.map id) := mapM_eq_some_map h
  rw [List.mapM_map, hread, List.map_id]

theorem list?_map {read : Json → Option α} {write : α → Json} {xs : List α}
    (h : ∀ x ∈ xs, read (write x) = some x) : list? read (.array (xs.map write)) = some xs := mapM_map h

/-- A part that is left out when absent is read back, unless its form is `null`. -/
theorem optional?_map {read : Json → Option α} {write : α → Json} {x : Option α}
    (h : ∀ a ∈ x, read (write a) = some a ∧ write a ≠ .null) : optional? read (x.map write) = some x := by
  cases x with
  | none => rfl
  | some a =>
    obtain ⟨hread, hnull⟩ := h a rfl
    show optional? read (some (write a)) = some (some a)
    unfold optional?
    split
    · rename_i heq
      cases heq
    · rename_i heq
      exact absurd (Option.some.inj heq) hnull
    · rename_i heq
      rw [← Option.some.inj heq, hread]
      rfl

/-- A part that is written as `null` when absent is read back as well. -/
theorem optional?_ofOption {read : Json → Option α} (x : Option Json) :
    optional? read (some (.ofOption x)) = optional? read x := by
  cases x with
  | none => rfl
  | some v => rfl

end Decoding

open Decoding

/-- An integer is the same signed word whether it is written as an unsigned or as a negative number. -/
theorem Number.toInt64?_ofInt64 (n : Int64) : (Number.ofInt64 n).toInt64? = some n := by
  unfold ofInt64
  split
  · rfl
  · rename_i hneg
    have hle : 0 ≤ n := Int64.not_lt.1 hneg
    have hword : n.toUInt64.toNat = n.toNatClampNeg := Int64.toNat_toUInt64_of_le hle
    have hlt : n.toNatClampNeg < Nat.pow 2 63 := Int64.toNatClampNeg_lt n
    simp only [toInt64?, hword, if_pos hlt, Int64.ofNat_toNatClampNeg n hle]

theorem Scalar.decode?_toJson {v : Scalar} (h : v.IsFinite) : Scalar.decode? v.toJson = some v := by
  cases v with
  | null => rfl
  | bool b => rfl
  | int n => simp [toJson, decode?, Json.int, Number.toInt64?_ofInt64]
  | float x =>
    have hx : x.isFinite = true := h
    simp [toJson, decode?, hx, Number.toInt64?, Number.toFloat]
  | text s => rfl

theorem Operand.decode?_toJson {o : Operand} (h : ∀ v ∈ o.values, v.IsFinite) :
    Operand.decode? o.toJson = some o := by
  cases o with
  | none => rfl
  | scalar v =>
    have hv := Scalar.decode?_toJson (h v (by simp [values]))
    simp [toJson, decode?, hv]
  | pair low high =>
    have hlow := Scalar.decode?_toJson (h low (by simp [values]))
    have hhigh := Scalar.decode?_toJson (h high (by simp [values]))
    simp [toJson, decode?, hlow, hhigh]
  | set values =>
    have hvalues : list? Scalar.decode? (.array (values.map Scalar.toJson)) = some values :=
      list?_map fun v hv => Scalar.decode?_toJson (h v hv)
    simp [toJson, decode?, hvalues]

theorem Condition.decode?_toJson {c : Condition} (h : ∀ v ∈ c.operand.values, v.IsFinite) :
    Condition.decode? c.toJson = some c := by
  have hoperand := Operand.decode?_toJson h
  simp [toJson, decode?, record?, Json.member?, text?, hoperand]

/-- A branch keeps its groups and their order, since no two operators have the same name. -/
theorem Branch.decode?_toJson {b : Branch} (h : ∀ v ∈ b.values, v.IsFinite) :
    Branch.decode? b.toJson = some b := by
  -- what is read from each member of the object
  let read := fun e : String × Json => do
    let op ← Operator.ofName? e.1
    let conditions ← list? Condition.decode? e.2
    some (op, conditions)
  have hgroup : ∀ e ∈ b.groups.entries, read (e.1.name, .array (e.2.map Condition.toJson)) = some e := by
    intro e he
    have hconditions : list? Condition.decode? (.array (e.2.map Condition.toJson)) = some e.2 := by
      apply list?_map
      intro c hc
      apply Condition.decode?_toJson
      intro v hv
      apply h v
      exact List.mem_flatMap.2 ⟨e, he, List.mem_flatMap.2 ⟨c, hc, hv⟩⟩
    simp only [read]
    rw [Operator.ofName?_name, hconditions]
    rfl
  have hentries : OrderedMap.ofList b.groups.entries = b.groups :=
    OrderedMap.ext (OrderedMap.entries_ofList b.groups.nodup)
  calc Branch.decode? b.toJson
      = ((b.groups.entries.map fun e => (e.1.name, Json.array (e.2.map Condition.toJson))).mapM read).bind
          fun groups => some (Branch.mk (OrderedMap.ofList groups)) := rfl
    _ = some (Branch.mk (OrderedMap.ofList b.groups.entries)) := by rw [mapM_map hgroup, Option.bind_some]
    _ = some b := by rw [hentries]

/-! ### Whole values -/

theorem Filter.decode?_toJson {f : Filter} (h : f.IsFinite) : Filter.decode? f.toJson = some f := by
  have hmust : Branch.decode? f.must.toJson = some f.must := Branch.decode?_toJson (h .must)
  have hmustNot : Branch.decode? f.mustNot.toJson = some f.mustNot := Branch.decode?_toJson (h .mustNot)
  have hshould : Branch.decode? f.should.toJson = some f.should := Branch.decode?_toJson (h .should)
  simp [toJson, decode?, record?, Json.member?, Branch.decodeField?, hmust, hmustNot, hshould]

theorem Direction.ofName?_name (d : Direction) : Direction.ofName? d.name = some d := by
  cases d <;> rfl

theorem SortKey.decode?_toJson (k : SortKey) : SortKey.decode? k.toJson = some k := by
  simp [toJson, decode?, record?, Json.member?, text?, variantName?, Direction.ofName?_name]

theorem SortOrder.decode?_toJson (s : SortOrder) : SortOrder.decode? s.toJson = some s := by
  have hkeys : list? SortKey.decode? (.array (s.keys.map SortKey.toJson)) = some s.keys :=
    list?_map fun k _ => SortKey.decode?_toJson k
  unfold toJson decode?
  rw [hkeys]
  rfl

theorem FieldSet.names_foldl_add {s : FieldSet} {names : List String} (h : (s.names ++ names).Nodup) :
    (names.foldl add s).names = s.names ++ names := by
  induction names generalizing s with
  | nil => simp
  | cons n rest ih =>
    have hnew : n ∉ s.names := by
      intro hmem
      exact (List.nodup_append.1 h).2.2 n hmem n List.mem_cons_self rfl
    have hadd : (s.add n).names = s.names ++ [n] := by
      unfold add
      rw [dif_neg hnew]
    have hrest : ((s.add n).names ++ rest).Nodup := by
      rw [hadd, List.append_assoc]
      exact h
    rw [List.foldl_cons, ih hrest, hadd, List.append_assoc]
    rfl

/-- A set that is built from different names keeps all of them. -/
theorem FieldSet.ofList_names (s : FieldSet) : FieldSet.ofList s.names = s :=
  FieldSet.ext (names_foldl_add (s := empty) s.nodup)

theorem FieldSet.decode?_toJson (s : FieldSet) : FieldSet.decode? s.toJson = some s := by
  have hnames : list? text? (.array (s.names.map Json.string)) = some s.names := list?_map fun _ _ => rfl
  unfold toJson decode?
  rw [hnames]
  exact congrArg some s.ofList_names

/-- Of parts with different names those that are present are found under their names, and no others. -/
theorem Json.member?_filterMap {parts : List (String × Option Json)} (h : (parts.map Prod.fst).Nodup) (name : String) :
    member? name (parts.filterMap fun (k, v) => v.map (k, ·)) = (parts.find? fun e => e.1 = name).bind Prod.snd := by
  induction parts with
  | nil => rfl
  | cons e rest ih =>
    obtain ⟨k, v⟩ := e
    rw [List.map_cons, List.nodup_cons] at h
    have hrest := ih h.2
    by_cases hk : k = name
    · subst hk
      have hnone : (rest.find? fun e => e.1 = k) = none := by
        rw [List.find?_eq_none]
        intro e he hname
        obtain rfl : e.1 = k := of_decide_eq_true hname
        exact h.1 (List.mem_map.2 ⟨e, he, rfl⟩)
      rw [hnone] at hrest
      cases v with
      | none => simpa using hrest
      | some v => simp [member?]
    · cases v with
      | none => simpa [hk] using hrest
      | some v => simpa [hk, member?] using hrest

/-- The optional parts of criteria are read back. -/
theorem optional?_sort (s : Option SortOrder) : optional? SortOrder.decode? (s.map SortOrder.toJson) = some s := by
  apply optional?_map
  intro s _
  refine ⟨s.decode?_toJson, ?_⟩
  simp [SortOrder.toJson]

theorem optional?_filter {f : Option Filter} (h : ∀ g ∈ f, g.IsFinite) :
    optional? Filter.decode? (f.map Filter.toJson) = some f := by
  apply optional?_map
  intro g hg
  refine ⟨Filter.decode?_toJson (h g hg), ?_⟩
  simp [Filter.toJson]

theorem optional?_fields (s : Option FieldSet) : optional? FieldSet.decode? (s.map FieldSet.toJson) = some s := by
  apply optional?_map
  intro s _
  refine ⟨s.decode?_toJson, ?_⟩
  simp [FieldSet.toJson]

theorem PageRequest.record?_toJson (r : PageRequest) :
    record? fieldNames r.toJson = some [some (.word r.number), some (.word r.size), r.sort.map SortOrder.toJson,
      r.filter.map Filter.toJson, r.fields.map FieldSet.toJson, r.distinct.map FieldSet.toJson] := by
  have hnames : ((criteriaParts r.sort r.filter r.fields r.distinct).map Prod.fst).Nodup := by
    show ["sort", "filter", "fields", "distinct_fields"].Nodup
    decide
  have hparts := Json.member?_filterMap hnames
  simp only [record?, fieldNames, toJson, List.map_cons, List.map_nil, List.cons_append, List.nil_append, Json.member?,
    hparts]
  simp [criteriaParts]

theorem PageRequest.decode_toJson {r : PageRequest} (h : r.IsFinite) : PageRequest.decode r.toJson = .ok r := by
  have hcreate : create r.number r.size = .ok { number := r.number, size := r.size, accepted := r.accepted } :=
    dif_pos r.accepted
  simp only [decode, record?_toJson, Option.bind_eq_bind, Option.bind_some, word?, Json.word, Number.toUInt64?,
    optional?_sort, optional?_filter h, optional?_fields, hcreate]

theorem Page.record?_toJson (p : Page Scalar) :
    record? fieldNames p.toJson = some [some (.array (p.content.map Scalar.toJson)), some (.word p.total),
      some (.word p.number), some (.word p.size), some (.word p.pages), some (.ofOption (p.sort.map SortOrder.toJson)),
      some (.ofOption (p.filter.map Filter.toJson)), some (.ofOption (p.fields.map FieldSet.toJson)),
      some (.ofOption (p.distinct.map FieldSet.toJson))] := by
  -- a page writes all of its members, so their names alone say where each of them is
  rfl

theorem Page.decode?_toJson {p : Page Scalar} (h : p.IsFinite) : Page.decode? p.toJson = some p := by
  have hcontent : list? Scalar.decode? (.array (p.content.map Scalar.toJson)) = some p.content :=
    list?_map fun v hv => Scalar.decode?_toJson (h.1 v hv)
  have hcomplete : isComplete p.toJson fieldNames.length = true := rfl
  simp only [decode?, record?_toJson, hcomplete, Option.bind_eq_bind, Option.bind_some, hcontent, word?, Json.word,
    Number.toUInt64?, optional?_ofOption, optional?_sort, optional?_filter h.2, optional?_fields]
  rfl

namespace Decoding

/-- Reading undoes writing, for every criteria value whose floats are finite. -/
theorem decode_encode :
    (∀ f : Filter, f.IsFinite → Filter.decode? f.toJson = some f) ∧
      (∀ s : SortOrder, SortOrder.decode? s.toJson = some s) ∧
      (∀ s : FieldSet, FieldSet.decode? s.toJson = some s) ∧
      (∀ r : PageRequest, r.IsFinite → PageRequest.decode r.toJson = .ok r) ∧
      ∀ p : Page Scalar, p.IsFinite → Page.decode? p.toJson = some p :=
  ⟨fun _ h => Filter.decode?_toJson h, SortOrder.decode?_toJson, FieldSet.decode?_toJson,
    fun _ h => PageRequest.decode_toJson h, fun _ h => Page.decode?_toJson h⟩

/-- A filter with an empty group, an empty set, an operand of the wrong shape, and values that look alike. -/
def irregular : Filter where
  must := ⟨OrderedMap.ofList [(.range, []), (.equals, [⟨"a", .scalar (.float 5)⟩, ⟨"a", .scalar (.text "5")⟩,
    ⟨"a", .scalar (.int 5)⟩, ⟨"b", .pair .null (.bool true)⟩])]⟩
  mustNot := ⟨OrderedMap.ofList [(.group, [⟨"a", .set []⟩])]⟩

/-- A request for a page of that filter, with a repeated sort key and without any fields. -/
def irregularRequest : PageRequest where
  number := 3
  size := 2
  sort := some ⟨[⟨"a", .asc⟩, ⟨"a", .desc⟩]⟩
  filter := some irregular
  accepted := by decide

private theorem irregular_isFinite : irregular.IsFinite := by
  intro clause v hv
  have hscalars : (irregular.branch clause).values ⊆ [.float 5, .text "5", .int 5, .null, .bool true] := by
    cases clause
    · exact List.Subset.refl _
    · exact List.nil_subset _
    · exact List.nil_subset _
  have hcases := hscalars hv
  simp only [List.mem_cons, List.not_mem_nil, or_false] at hcases
  rcases hcases with rfl | rfl | rfl | rfl | rfl
  · show Float.isFinite 5 = true
    decide
  all_goals trivial

/-- Nothing of an irregular filter is lost, alone or in a page request. -/
theorem decode_encode_of_irregular :
    irregular.IsFinite ∧ irregularRequest.IsFinite ∧ Filter.decode? irregular.toJson = some irregular ∧
      PageRequest.decode irregularRequest.toJson = .ok irregularRequest := by
  have hrequest : irregularRequest.IsFinite := by
    intro f hf
    obtain rfl : irregular = f := Option.some.inj hf
    exact irregular_isFinite
  exact ⟨irregular_isFinite, hrequest, decode_encode.1 irregular irregular_isFinite,
    decode_encode.2.2.2.1 irregularRequest hrequest⟩

end Decoding

end CriteriaStore
