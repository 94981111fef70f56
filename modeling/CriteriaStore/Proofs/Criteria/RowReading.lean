import CriteriaStore.Proofs.Criteria.RoundTrip
import CriteriaStore.Proofs.Mapping.Flattening

/-!
# Two ways to read a row

The row of a JSON object is taken value by value, arrays and objects as their text (`Row.ofJson`), or it is decoded, each
value as the first kind of scalar that it can be (`Row.decode?`). The two ways agree on every object without arrays and
objects in it, whatever numbers it has. Any other object cannot be decoded, and the arrays and objects are what the first
way turns into texts (`Row.reads_agree`).
-/

namespace CriteriaStore

/-- Whether a value is an array or an object. -/
def Json.IsCompound : Json → Prop
  | array _ | object _ => True
  | _ => False

namespace Scalar

/-! ### One value -/

/-- Nothing. -/
def ofNull? : Json → Option Scalar
  | .null => some null
  | _ => none

/-- A truth value. -/
def ofBool? : Json → Option Scalar
  | .bool b => some (bool b)
  | _ => none

/-- A number that is a signed word. -/
def ofInteger? : Json → Option Scalar
  | .number n => n.toInt64?.map int
  | _ => none

/-- Any number, as the nearest float. -/
def ofNumber? : Json → Option Scalar
  | .number n => some (float n.toFloat)
  | _ => none

/-- A text. -/
def ofString? : Json → Option Scalar
  | .string s => some (text s)
  | _ => none

/-- The kinds of scalars that a value may be, in the order in which they are tried. -/
def kinds : List (Json → Option Scalar) := [ofNull?, ofBool?, ofInteger?, ofNumber?, ofString?]

/-- A value is decoded as the first kind of scalar that it can be. -/
theorem decode?_eq_findSome? (v : Json) : decode? v = kinds.findSome? fun kind => kind v := by
  cases v with
  | number n =>
    simp only [decode?, kinds, List.findSome?_cons, ofNull?, ofBool?, ofInteger?, ofNumber?]
    cases n.toInt64? <;> rfl
  | _ => rfl

theorem decode?_of_not_compound {v : Json} (h : ¬v.IsCompound) : decode? v = some (ofJson v) := by
  cases v with
  | number n =>
    simp only [decode?, ofJson]
    cases n.toInt64? <;> rfl
  | array items => exact absurd trivial h
  | object members => exact absurd trivial h
  | _ => rfl

theorem decode?_of_compound {v : Json} (h : v.IsCompound) : decode? v = none := by
  cases v with
  | array items => rfl
  | object members => rfl
  | _ => exact h.elim

theorem ofJson_of_compound {v : Json} (h : v.IsCompound) : ofJson v = text v.render := by
  cases v with
  | array items => rfl
  | object members => rfl
  | _ => exact h.elim

/-- A value that is no text becomes one exactly when it is an array or an object. -/
theorem isCompound_iff (v : Json) :
    v.IsCompound ↔ (∀ s, v ≠ .string s) ∧ ∃ s, ofJson v = text s := by
  constructor
  · intro h
    refine ⟨?_, v.render, ofJson_of_compound h⟩
    rintro s rfl
    exact h
  · rintro ⟨hstring, s, hs⟩
    by_contra h
    cases v with
    | string s' => exact hstring s' rfl
    | number n =>
      simp only [ofJson] at hs
      cases hn : n.toInt64? <;> simp [hn] at hs
    | array items => exact h trivial
    | object members => exact h trivial
    | _ => cases hs

theorem not_isCompound_toJson (v : Scalar) : ¬v.toJson.IsCompound := by
  cases v with
  | float x =>
    show ¬(if x.isFinite then Json.number (.float x) else .null).IsCompound
    split <;> exact id
  | _ => exact id

end Scalar

namespace Row

/-! ### Whole objects -/

/-- What is decoded of a member of an object. -/
private def decodeMember? (e : String × Json) : Option (String × Scalar) := do
  let v ← Scalar.decode? e.2
  some (e.1, v)

private theorem decode?_object (members : List (String × Json)) :
    decode? (.object members) = (members.mapM decodeMember?).map OrderedMap.ofList := by
  unfold decode?
  exact (Option.map_eq_bind (f := OrderedMap.ofList)).symm

private theorem mapM_decodeMember? {members : List (String × Json)} (h : ∀ e ∈ members, ¬e.2.IsCompound) :
    members.mapM decodeMember? = some (members.map fun e => (e.1, Scalar.ofJson e.2)) := by
  apply Decoding.mapM_eq_some_map
  intro e he
  unfold decodeMember?
  rw [Scalar.decode?_of_not_compound (h e he)]
  rfl

private theorem mapM_decodeMember?_of_compound {members : List (String × Json)} {e : String × Json} (he : e ∈ members)
    (h : e.2.IsCompound) : members.mapM decodeMember? = none := by
  induction members with
  | nil => cases he
  | cons e' rest ih =>
    rw [List.mapM_cons]
    rcases List.mem_cons.1 he with rfl | hrest
    · have hfirst : decodeMember? e = none := by
        unfold decodeMember?
        rw [Scalar.decode?_of_compound h]
        rfl
      rw [hfirst]
      rfl
    · rw [ih hrest]
      cases decodeMember? e' <;> rfl

/-- An object without arrays and objects in it is the same row either way. -/
theorem decode?_eq_ofJson {members : List (String × Json)} (h : ∀ e ∈ members, ¬e.2.IsCompound) :
    decode? (.object members) = some (ofJson (.object members)) := by
  rw [decode?_object, mapM_decodeMember? h]
  rfl

theorem decode?_eq_none {members : List (String × Json)} (h : ∃ e ∈ members, e.2.IsCompound) :
    decode? (.object members) = none := by
  obtain ⟨e, he, hcompound⟩ := h
  rw [decode?_object, mapM_decodeMember?_of_compound he hcompound]
  rfl

/-- The columns of an object are its names, in the order in which they come first. -/
theorem keys_ofJson (members : List (String × Json)) :
    (ofJson (.object members)).keys = (members.map Prod.fst).eraseDups := by
  unfold ofJson
  rw [OrderedMap.keys_ofList, List.map_map]
  rfl

/-- A column has the scalar of the last value under its name. -/
theorem get?_ofJson {members : List (String × Json)} {column : String} {v : Json} (h : LastUnder members column v) :
    (ofJson (.object members)).get? column = some (Scalar.ofJson v) :=
  OrderedMap.get?_ofList.2 ((lastUnder_map Scalar.ofJson).2 ⟨v, h, rfl⟩)

theorem decode?_toJson {r : Row} (h : ∀ v ∈ r.values, v.IsFinite) : decode? r.toJson = some r := by
  have hmembers : (r.entries.map fun e => (e.1, e.2.toJson)).mapM decodeMember? = some r.entries := by
    apply Decoding.mapM_map
    intro e he
    show decodeMember? (e.1, e.2.toJson) = some e
    unfold decodeMember?
    rw [Scalar.decode?_toJson (h e.2 (List.mem_map_of_mem he))]
    rfl
  show decode? (.object (r.entries.map fun e => (e.1, e.2.toJson))) = some r
  rw [decode?_object, hmembers]
  exact congrArg some (OrderedMap.ext (OrderedMap.entries_ofList r.nodup))

/-- A row is written as an object without arrays and objects in it, so it is read back either way. -/
theorem ofJson_toJson {r : Row} (h : ∀ v ∈ r.values, v.IsFinite) : ofJson r.toJson = r := by
  have hplain : ∀ e ∈ r.entries.map fun e => (e.1, e.2.toJson), ¬e.2.IsCompound := by
    intro e he
    obtain ⟨e', -, rfl⟩ := List.mem_map.1 he
    exact Scalar.not_isCompound_toJson e'.2
  have hdecoded := decode?_toJson h
  have hagree : decode? r.toJson = some (ofJson r.toJson) := decode?_eq_ofJson hplain
  rw [hdecoded] at hagree
  exact (Option.some.inj hagree).symm

/-- Both ways give the same row of an object without arrays and objects in it. An object with some cannot be decoded; read
value by value, it has a column for each of its names, and of the values that were no texts exactly the arrays and objects
became texts, namely their own, while every other value is what it is decoded as. A row whose floats are finite is read
back from its JSON form in both ways. Here a value is decoded as the first kind of scalar that it can be. -/
theorem reads_agree :
    (∀ v : Json, Scalar.decode? v = Scalar.kinds.findSome? fun kind => kind v) ∧
      (∀ members : List (String × Json), (∀ e ∈ members, ¬e.2.IsCompound) →
        decode? (.object members) = some (ofJson (.object members))) ∧
      (∀ members : List (String × Json), (∃ e ∈ members, e.2.IsCompound) →
        decode? (.object members) = none ∧
          (ofJson (.object members)).keys = (members.map Prod.fst).eraseDups ∧
          ∀ column v, LastUnder members column v →
            (v.IsCompound ↔ (∀ s, v ≠ .string s) ∧ ∃ s, (ofJson (.object members)).get? column = some (.text s)) ∧
              (v.IsCompound → (ofJson (.object members)).get? column = some (.text v.render)) ∧
              (¬v.IsCompound → (ofJson (.object members)).get? column = Scalar.decode? v)) ∧
      ∀ r : Row, (∀ v ∈ r.values, v.IsFinite) → decode? r.toJson = some r ∧ ofJson r.toJson = r := by
  refine ⟨Scalar.decode?_eq_findSome?, fun _ => decode?_eq_ofJson, ?_, ?_⟩
  · intro members h
    refine ⟨decode?_eq_none h, keys_ofJson members, ?_⟩
    intro column v hv
    rw [get?_ofJson hv]
    refine ⟨?_, ?_, ?_⟩
    · rw [Scalar.isCompound_iff v]
      simp only [Option.some.injEq]
    · intro hcompound
      rw [Scalar.ofJson_of_compound hcompound]
    · intro hplain
      rw [Scalar.decode?_of_not_compound hplain]
  · intro r h
    exact ⟨decode?_toJson h, ofJson_toJson h⟩

/-- Integers on either side of the signed words and an integral float, first alone and then behind an array. -/
theorem reads_agree_of_numbers :
    let plain : List (String × Json) :=
      [("low", .int (-3)), ("high", .number (.unsigned 9223372036854775808)), ("whole", .number (.float 5))]
    let nested := ("list", .array [.null]) :: plain
    let r : Row := OrderedMap.ofList [("high", .float 5), ("low", .int (-3))]
    (∀ e ∈ plain, ¬e.2.IsCompound) ∧ decode? (.object plain) = some (ofJson (.object plain)) ∧
      (∃ e ∈ nested, e.2.IsCompound) ∧ decode? (.object nested) = none ∧
        LastUnder nested "list" (.array [.null]) ∧ Json.IsCompound (.array [.null]) ∧
          (ofJson (.object nested)).get? "list" = some (.text (Json.render (.array [.null]))) ∧
            (∀ v ∈ r.values, v.IsFinite) ∧ decode? r.toJson = some r ∧ ofJson r.toJson = r := by
  intro plain nested r
  have hplain : ∀ e ∈ plain, ¬e.2.IsCompound := by
    intro e he
    simp only [plain, List.mem_cons, List.not_mem_nil, or_false] at he
    rcases he with rfl | rfl | rfl <;> exact id
  have hnested : ∃ e ∈ nested, e.2.IsCompound := ⟨_, List.mem_cons_self, trivial⟩
  have hlast : LastUnder nested "list" (.array [.null]) := ⟨[], plain, rfl, by decide⟩
  have hfinite : ∀ v ∈ r.values, v.IsFinite := by
    intro v hv
    have hvalues : r.values = [.float 5, .int (-3)] := rfl
    rw [hvalues, List.mem_cons, List.mem_singleton] at hv
    rcases hv with rfl | rfl
    · show Float.isFinite 5 = true
      decide
    · trivial
  obtain ⟨-, hagree, hrefuse, hback⟩ := reads_agree
  obtain ⟨hnone, -, hcolumns⟩ := hrefuse nested hnested
  have htext := (hcolumns "list" _ hlast).2.1 trivial
  exact ⟨hplain, hagree plain hplain, hnested, hnone, hlast, trivial, htext, hfinite, hback r hfinite⟩

end Row

end CriteriaStore
