import CriteriaStore.Proofs.Mapping.Flattening
import CriteriaStore.Proofs.Repository.Sample
import CriteriaStore.Proofs.Sql.Ordering
import CriteriaStore.Proofs.Storage.Narrowing

/-!
# Entities of rows

Each row of a list has one of three outcomes: it has no column and is left out, the mapping makes an entity of it, or the
mapping refuses it. Hydration collects the outcomes (`Mapping.entities`). So it gives one entity for each row with a column,
in the order of the rows, or it fails for a row that is refused, and gives nothing then (`Mapping.entities_eq_iff`).

A repository of entities does what the repository of rows does and collects the outcomes of its rows
(`EntityRepository.hydrates_rows`). A row of a selection has no column when none of the asked cells can be read; only for
such a row there is no entity (`EntityRepository.findDistinct_drops_unreadable`).
-/

namespace CriteriaStore

open Storage (Connection Database Table Record Schema)

variable {ε : Type}

/-! ### Outcomes -/

namespace Mapping

variable {m : Mapping ε} {rows : List Row} {es : List ε}

/-- The entity that a mapping makes of a row, or its refusal. -/
def built (m : Mapping ε) (row : Row) : Except RepositoryError ε :=
  match m.ofRow? row with
  | some e => .ok e
  | none => .error (.hydration m.table)

/-- The outcome of a row, if it has a column. -/
def outcome? (m : Mapping ε) (row : Row) : Option (Except RepositoryError ε) :=
  if row.isEmpty then none else some (m.built row)

/-- The entities of rows, if the mapping refuses none of them. -/
def entities (m : Mapping ε) (rows : List Row) : Except RepositoryError (List ε) := (rows.filterMap m.outcome?).mapM id

/-- What rows may come to as entities: one for each row with a column, in their order, or the failure for one that is
refused. -/
inductive Hydrates (m : Mapping ε) (rows : List Row) : Except RepositoryError (List ε) → Prop
  | complete {es : List ε}
      (h : List.Forall₂ (fun row e => m.ofRow? row = some e) (rows.filter fun row => !row.isEmpty) es) :
      Hydrates m rows (.ok es)
  | refused {row : Row} (hrow : row ∈ rows) (hshown : row.isEmpty = false) (hnone : m.ofRow? row = none) :
      Hydrates m rows (.error (.hydration m.table))

theorem built_eq_ok {row : Row} {e : ε} : m.built row = .ok e ↔ m.ofRow? row = some e := by
  unfold built
  cases m.ofRow? row <;> simp

theorem built_eq_error {row : Row} {e : RepositoryError} :
    m.built row = .error e ↔ m.ofRow? row = none ∧ e = .hydration m.table := by
  unfold built
  cases m.ofRow? row <;> simp [eq_comm]

/-- The rows without columns have no part in it. -/
theorem entities_eq_mapM (m : Mapping ε) (rows : List Row) :
    m.entities rows = (rows.filter fun row => !row.isEmpty).mapM m.built := by
  have houtcomes : rows.filterMap m.outcome? = (rows.filter fun row => !row.isEmpty).map m.built := by
    induction rows with
    | nil => rfl
    | cons row rest ih =>
      cases hrow : row.isEmpty with
      | true =>
        have hnone : m.outcome? row = none := by simp [outcome?, hrow]
        rw [List.filterMap_cons_none hnone, List.filter_cons_of_neg (by simp [hrow]), ih]
      | false =>
        have hsome : m.outcome? row = some (m.built row) := by simp [outcome?, hrow]
        rw [List.filterMap_cons_some hsome, List.filter_cons_of_pos (by simp [hrow]), List.map_cons, ih]
  unfold entities
  rw [houtcomes, List.mapM_map]
  rfl

theorem entities_eq_ok_iff : m.entities rows = .ok es ↔
    List.Forall₂ (fun row e => m.ofRow? row = some e) (rows.filter fun row => !row.isEmpty) es := by
  rw [entities_eq_mapM, mapM_eq_ok_iff]
  simp only [built_eq_ok]

theorem entities_eq_error_iff {e : RepositoryError} : m.entities rows = .error e ↔
    e = .hydration m.table ∧ ∃ row ∈ rows, row.isEmpty = false ∧ m.ofRow? row = none := by
  constructor
  · intro h
    rw [entities_eq_mapM, mapM_eq_error_iff] at h
    obtain ⟨before, row, after, hsplit, -, hbuilt⟩ := h
    obtain ⟨hnone, rfl⟩ := built_eq_error.1 hbuilt
    have hmem : row ∈ rows.filter fun row => !row.isEmpty := by simp [hsplit]
    obtain ⟨hrow, hshown⟩ := List.mem_filter.1 hmem
    exact ⟨rfl, row, hrow, by simpa using hshown, hnone⟩
  · rintro ⟨rfl, row, hrow, hshown, hnone⟩
    cases h : m.entities rows with
    | ok es =>
      -- an entity of the refused row would be among them
      have hmem : row ∈ rows.filter fun row => !row.isEmpty := List.mem_filter.2 ⟨hrow, by simp [hshown]⟩
      obtain ⟨i, hi, hget⟩ := List.mem_iff_getElem.1 hmem
      have hall := entities_eq_ok_iff.1 h
      have hbuilt := hall.get hi (hall.length_eq ▸ hi)
      rw [List.get_eq_getElem, hget, hnone] at hbuilt
      cases hbuilt
    | error e =>
      rw [entities_eq_mapM, mapM_eq_error_iff] at h
      obtain ⟨-, _, -, -, -, hbuilt⟩ := h
      rw [(built_eq_error.1 hbuilt).2]

/-- Rows come to just one thing, and it is what collecting them comes to. -/
theorem entities_eq_iff {x : Except RepositoryError (List ε)} : m.entities rows = x ↔ m.Hydrates rows x := by
  cases x with
  | ok es =>
    rw [entities_eq_ok_iff]
    exact ⟨.complete, fun | .complete h => h⟩
  | error e =>
    rw [entities_eq_error_iff]
    constructor
    · rintro ⟨rfl, row, hrow, hshown, hnone⟩
      exact .refused hrow hshown hnone
    · rintro (_ | ⟨hrow, hshown, hnone⟩)
      exact ⟨rfl, _, hrow, hshown, hnone⟩

theorem exists_entities_iff :
    (∃ es, m.entities rows = .ok es) ↔ ∀ row ∈ rows, row.isEmpty = false → (m.ofRow? row).isSome := by
  cases h : m.entities rows with
  | ok es =>
    refine iff_of_true ⟨es, rfl⟩ fun row hrow hshown => ?_
    by_contra hnone
    have hfails := entities_eq_error_iff.2 ⟨rfl, row, hrow, hshown, Option.not_isSome_iff_eq_none.1 hnone⟩
    rw [h] at hfails
    cases hfails
  | error e =>
    obtain ⟨-, row, hrow, hshown, hnone⟩ := entities_eq_error_iff.1 h
    refine iff_of_false nofun fun hall => ?_
    have hsome := hall row hrow hshown
    rw [hnone] at hsome
    cases hsome

/-- There are as many entities as rows with a column. -/
theorem length_entities (h : m.entities rows = .ok es) :
    es.length = rows.length ↔ ∀ row ∈ rows, row.isEmpty = false := by
  rw [← (entities_eq_ok_iff.1 h).length_eq, List.length_filter_eq_length_iff]
  simp only [Bool.not_eq_true']

end Mapping

/-! ### Rows without columns -/

theorem OrderedMap.isEmpty_ofList {κ ν : Type} [DecidableEq κ] (l : List (κ × ν)) : (ofList l).isEmpty = l.isEmpty := by
  have hkeys := keys_ofList l
  unfold keys at hkeys
  cases l with
  | nil => rfl
  | cons e rest =>
    rw [List.map_cons, List.eraseDups_cons] at hkeys
    unfold isEmpty
    rw [List.isEmpty_cons, List.isEmpty_eq_false_iff]
    intro hnil
    rw [hnil] at hkeys
    cases hkeys

namespace Storage

/-- A row has no column when each asked name is that of a column whose cell has no scalar. -/
theorem Schema.isEmpty_row_iff {s : Schema} {names : List String} {r : Record} :
    (s.row names r).isEmpty ↔
      ∀ n ∈ names, ∃ c, s.column? n = some c ∧ c.type.read? (Record.cell r c.name) = none := by
  have hrow : s.row names r = OrderedMap.ofList (names.filterMap (s.entry? r)) := rfl
  rw [hrow, OrderedMap.isEmpty_ofList, List.isEmpty_iff, List.filterMap_eq_nil_iff]
  refine forall_congr' fun n => imp_congr_right fun _ => ?_
  unfold entry?
  cases s.column? n with
  | none => simp
  | some c => simp

/-- Where a selection gives a row without columns, there is a record of whose asked cells none can be read. -/
theorem Database.exists_unreadable {d : Database} {q : Sql.Select} {rows : List Row} (h : d.rows q = .ok rows) {row : Row}
    (hrow : row ∈ rows) (hempty : row.isEmpty) :
    ∃ t, d.readable q.table = .ok t ∧ ∃ r ∈ t.records, ∀ n ∈ t.schema.asked q.projection,
      ∃ c, t.schema.column? n = some c ∧ c.type.read? (Record.cell r c.name) = none := by
  unfold Database.rows at h
  cases hnames : checkNames q.names with
  | error e => simp [hnames, bind, Except.bind] at h
  | ok _ =>
    cases ht : d.readable q.table with
    | error e => simp [hnames, ht, bind, Except.bind] at h
    | ok t =>
      obtain rfl : t.rows q = rows := by simpa [hnames, ht, bind, Except.bind, pure, Except.pure] using h
      obtain ⟨r, hr, rfl⟩ := List.mem_map.1 hrow
      exact ⟨t, rfl, r, Table.mem_of_mem_ordered (mem_of_mem_stretch hr), Schema.isEmpty_row_iff.1 hempty⟩

end Storage

/-! ### Calls -/

/-- Whether an action does what another one does that gives rows, and collects the outcomes of these. -/
def Action.Collects (m : Mapping ε) (rows : Action (List Row)) (entities : Action (List ε)) : Prop :=
  ∀ j, exec entities j = ((exec rows j).1.bind m.entities, (exec rows j).2)

/-- Of rows that all have a column, the action gives just as many entities, or it fails as a whole. -/
theorem Action.Collects.of_shown {m : Mapping ε} {a : Action (List Row)} {b : Action (List ε)} (h : Collects m a b)
    {j j' : Journal} {rows : List Row} (hrows : exec a j = (.ok rows, j')) (hshown : ∀ row ∈ rows, row.isEmpty = false) :
    (∃ es, exec b j = (.ok es, j') ∧ List.Forall₂ (fun row e => m.ofRow? row = some e) rows es) ∨
      exec b j = (.error (.hydration m.table), j') := by
  have hrun := h j
  rw [hrows] at hrun
  have hall : rows.filter (fun row => !row.isEmpty) = rows := List.filter_eq_self.2 fun row hrow => by simp [hshown row hrow]
  cases hentities : m.entities rows with
  | ok es =>
    have hbuilt := Mapping.entities_eq_ok_iff.1 hentities
    rw [hall] at hbuilt
    refine .inl ⟨es, hrun.trans ?_, hbuilt⟩
    exact congrArg (·, j') hentities
  | error e =>
    obtain ⟨rfl, -⟩ := Mapping.entities_eq_error_iff.1 hentities
    exact .inr (hrun.trans (congrArg (·, j') hentities))

/-- A page with some content, reported as what was asked for. -/
def Page.answering {ι : Type} (content : List ι) (total : UInt64) : Option PageRequest → Page ι
  | none => Page.single content total
  | some request => Page.of content total request

namespace EntityRepository

variable (r : EntityRepository ε)

theorem hydrate_eq_ok {row : Row} {e : ε} (hrow : row.isEmpty = false) (he : r.mapping.ofRow? row = some e) :
    r.hydrate row = .ok (some e) := by
  unfold hydrate
  rw [hrow, he]
  rfl

/-- What goes wrong with hydration is a row that the mapping makes no entity of. -/
theorem hydrate_error {row : Row} {e : RepositoryError} (h : r.hydrate row = .error e) :
    e = .hydration r.mapping.table := by
  unfold hydrate at h
  split at h
  · cases h
  · split at h
    · cases h
    · cases h
      rfl

/-- Going through rows one by one is collecting their outcomes. -/
theorem hydrateAll_eq (rows : List Row) : r.hydrateAll rows = r.mapping.entities rows := by
  rw [Mapping.entities_eq_mapM]
  induction rows with
  | nil => rfl
  | cons row rest ih =>
    unfold hydrateAll hydrate
    cases hrow : row.isEmpty with
    | true =>
      rw [List.filter_cons_of_neg (by simp [hrow]), ih]
      cases (rest.filter fun row => !row.isEmpty).mapM r.mapping.built <;> rfl
    | false =>
      rw [List.filter_cons_of_pos (by simp [hrow]), List.mapM_cons, ← ih]
      unfold Mapping.built
      cases r.mapping.ofRow? row with
      | none => rfl
      | some e => cases r.hydrateAll rest <;> rfl

theorem hydrateAll_error {rows : List Row} {e : RepositoryError} (h : r.hydrateAll rows = .error e) :
    e = .hydration r.mapping.table := by
  rw [hydrateAll_eq] at h
  exact (Mapping.entities_eq_error_iff.1 h).1

/-- The request for a page of rows: what the caller asks for, with the identity among the fields. -/
def asked (request : PageRequest) : PageRequest :=
  match r.withIdentity request.fields with
  | some fields => { request with fields := some fields }
  | none => request

private theorem collects_hydrateAll (a : Action (List Row)) :
    Action.Collects r.mapping a (do r.hydrateAll (← a)) := by
  intro j
  rw [Action.exec_bind]
  rcases Action.exec a j with ⟨e | rows, j'⟩
  · rfl
  · exact congrArg (·, j') (r.hydrateAll_eq rows)

/-- A page of entities is the page of rows with their outcomes collected, reported as the caller asked for it. -/
private theorem exec_page (request : Option PageRequest) (j : Journal) :
    Action.exec (r.page request) j =
      ((Action.exec (Rows.page r.mapping (request.map r.asked)) j).1.bind fun p =>
          (r.mapping.entities p.content).map fun es => Page.answering es p.total request,
        (Action.exec (Rows.page r.mapping (request.map r.asked)) j).2) := by
  have hpage : r.page request = (do
      let p ← Rows.page r.mapping (request.map r.asked)
      return Page.answering (← r.hydrateAll p.content) p.total request) := by
    cases request <;> rfl
  rw [hpage, Action.exec_bind]
  rcases Action.exec (Rows.page r.mapping (request.map r.asked)) j with ⟨e | p, j'⟩
  · rfl
  · show Action.exec (liftM (r.hydrateAll p.content) >>= _) j' = _
    rw [Action.exec_bind, Action.exec_lift, r.hydrateAll_eq]
    show _ = ((r.mapping.entities p.content).map _, j')
    cases r.mapping.entities p.content <;> rfl

/-- For every mapping and all rows, hydration comes to just one thing: the entities of the rows with a column, in their order
and one for each, or the failure for such a row that is refused. It succeeds when no such row is refused, and then there are
as many entities as rows exactly when every row has a column. Lists, different rows, batches and pages of entities do what
those of rows do, and fail as these fail or give what their rows come to: as many entities, in the same order, or the
failure, if all rows have a column. A row of a selection has one if any asked cell of its record can be read. -/
theorem hydrates_rows :
    (∀ (m : Mapping ε) rows x, m.entities rows = x ↔ m.Hydrates rows x) ∧
      (∀ (m : Mapping ε) rows,
        (∃ es, m.entities rows = .ok es) ↔ ∀ row ∈ rows, row.isEmpty = false → (m.ofRow? row).isSome) ∧
      (∀ (m : Mapping ε) rows es, m.entities rows = .ok es →
        (es.length = rows.length ↔ ∀ row ∈ rows, row.isEmpty = false)) ∧
      (∀ rows, r.hydrateAll rows = r.mapping.entities rows) ∧
      (∀ filter sort fields, Action.Collects r.mapping (Rows.findBy r.mapping filter sort (r.withIdentity fields))
        (r.findBy filter sort fields)) ∧
      (∀ distinct filter sort, Action.Collects r.mapping (Rows.findDistinct r.mapping distinct filter sort)
        (r.findDistinct distinct filter sort)) ∧
      (∀ es, Action.Collects r.mapping (Rows.putAll r.mapping r.flatten es) (r.putAll es)) ∧
      (∀ request j, Action.exec (r.page request) j =
        ((Action.exec (Rows.page r.mapping (request.map r.asked)) j).1.bind fun p =>
            (r.mapping.entities p.content).map fun es => Page.answering es p.total request,
          (Action.exec (Rows.page r.mapping (request.map r.asked)) j).2)) ∧
      (∀ (m : Mapping ε) a b, Action.Collects m a b → ∀ j rows j', Action.exec a j = (.ok rows, j') →
        (∀ row ∈ rows, row.isEmpty = false) →
        (∃ es, Action.exec b j = (.ok es, j') ∧ List.Forall₂ (fun row e => m.ofRow? row = some e) rows es) ∨
          Action.exec b j = (.error (.hydration m.table), j')) ∧
      ∀ (d : Database) q rows, d.rows q = .ok rows → ∀ row ∈ rows, row.isEmpty →
        ∃ t, d.readable q.table = .ok t ∧ ∃ record ∈ t.records, ∀ n ∈ t.schema.asked q.projection,
          ∃ c, t.schema.column? n = some c ∧ c.type.read? (Record.cell record c.name) = none := by
  refine ⟨fun m rows x => Mapping.entities_eq_iff, fun m rows => Mapping.exists_entities_iff,
    fun m rows es => Mapping.length_entities, r.hydrateAll_eq, ?_, ?_, ?_, r.exec_page, ?_, ?_⟩
  · exact fun filter sort fields => r.collects_hydrateAll _
  · exact fun distinct filter sort => r.collects_hydrateAll _
  · exact fun es => r.collects_hydrateAll _
  · exact fun m a b h j rows j' hrows hshown => h.of_shown hrows hshown
  · exact fun d q rows h row hrow hempty => Database.exists_unreadable h hrow hempty

/-- Flags of which one has no column, alone and behind a row that lacks the identity. -/
theorem hydrates_rows_of_flags :
    let first : Row := OrderedMap.ofList [("flag_id", .int 1)]
    let second : Row := OrderedMap.ofList [("flag_id", .int 2), ("is_on", .bool true)]
    let nameless : Row := OrderedMap.ofList [("is_on", .bool true)]
    Sample.flagRepository.hydrateAll [first, .empty, second] = .ok [(.int 1, first), (.int 2, second)] ∧
      Sample.flagRepository.hydrateAll [nameless, first, .empty, second] = .error (.hydration "flags") := by
  intro first second nameless
  obtain ⟨hentities, -, -, hall, -⟩ := Sample.flagRepository.hydrates_rows
  have hcomplete : Sample.flagRepository.mapping.Hydrates [first, .empty, second]
      (.ok [(.int 1, first), (.int 2, second)]) := .complete (.cons rfl (.cons rfl .nil))
  have hnone : Sample.flagRepository.mapping.ofRow? nameless = none := rfl
  have hrefused : Sample.flagRepository.mapping.Hydrates [nameless, first, .empty, second]
      (.error (.hydration "flags")) := .refused List.mem_cons_self rfl hnone
  exact ⟨(hall _).trans ((hentities _ _ _).2 hcomplete), (hall _).trans ((hentities _ _ _).2 hrefused)⟩

/-- The value of the only flag cannot be read. Different values are one row, which has no column, and no entity. -/
theorem findDistinct_drops_unreadable :
    let flag : Record := OrderedMap.ofList [("flag_id", .int 1), ("is_on", .real 2.5)]
    let c : Connection := { database := { tables := [Sample.flagsOf [flag]] } }
    let distinct := FieldSet.ofList ["on"]
    ∃ row : Row, (Rows.findDistinct (Sample.flags false) distinct none none).Gives c (.ok [row]) c ∧
      (Sample.flagRepository.findDistinct distinct none none).Gives c (.ok []) c := by
  intro flag c distinct
  let t := Sample.flagsOf [flag]
  have h : Readable c (Sample.flags false) t := Sample.readable_flags [flag]
  have hnames : (Sample.flags false).properties.select distinct = .ok ["is_on"] := rfl
  have hselection : (Sample.flags false).selection (.distinct ["is_on"]) none none {} =
      .ok ({ table := "flags", projection := .distinct ["is_on"] }, {}) := rfl
  have hgives := h.gives_findDistinct hnames hselection
  have hrows : t.rows { table := "flags", projection := .distinct ["is_on"] } = [t.schema.row ["is_on"] flag] := by
    have hmatching : t.matching none = [flag] := (Table.Singles.of_records rfl rfl).matching
    unfold Table.rows
    rw [t.ordered_of_unsorted rfl, hmatching]
    rfl
  have hempty : (t.schema.row ["is_on"] flag).isEmpty := by decide +kernel
  rw [hrows] at hgives
  refine ⟨_, hgives, hgives.bind ?_⟩
  have hnone : Sample.flagRepository.hydrateAll [t.schema.row ["is_on"] flag] = .ok [] := by
    rw [hydrateAll_eq, Mapping.entities_eq_mapM, List.filter_cons_of_neg (by simp [hempty])]
    rfl
  rw [hnone]
  exact Action.gives_pure _ c

end EntityRepository

end CriteriaStore
