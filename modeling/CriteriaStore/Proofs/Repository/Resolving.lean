import CriteriaStore.Proofs.Repository.Hydrating
import CriteriaStore.Proofs.Repository.Lookup
import CriteriaStore.Proofs.Repository.Program

/-!
# Criteria errors come first

Every call resolves its criteria before its first event and its first statement. So it either fails on them before it
does anything, or it goes on as a program that raises no criteria error (`Action.Upfront`): what is put together later
on, such as the condition that reads a batch back, only names the identity, which is mapped.

A criteria error therefore depends on the call and its mapping alone, not on what is stored
(`Upfront.exec_of_criteria`).
-/

namespace CriteriaStore

open Storage (Connection)
open CriteriaStore.Action (Program)

variable {ε : Type}

/-- Whether the criteria of a call, its mapping or its entities could not be resolved. -/
def RepositoryError.IsCriteria : RepositoryError → Prop
  | criteria _ => True
  | _ => False

/-- An action that fails on its criteria before it does anything, or does not fail on them. -/
inductive Action.Upfront {α : Type} : Action α → Prop
  | failure (e : CriteriaError) : Upfront (throw (.criteria e))
  | program {a : Action α} (h : Program True (fun e => ¬e.IsCriteria) a) : Upfront a

namespace Action.Upfront

variable {α β : Type} {a : Action α}

/-- When an action fails on its criteria, it has done nothing and does the same on every journal. -/
theorem exec_of_criteria (h : Upfront a) {j j' : Journal} {e : CriteriaError}
    (he : exec a j = (.error (.criteria e), j')) : j' = j ∧ ∀ k, exec a k = (.error (.criteria e), k) := by
  cases h with
  | failure e' =>
    cases he
    exact ⟨rfl, fun _ => rfl⟩
  | program h =>
    rcases h.raises he with hother | ⟨phase, s, hs⟩
    · exact absurd trivial hother
    · cases hs

theorem toProgram (h : Upfront a) : Program True (fun _ => True) a := by
  cases h with
  | failure e => exact .failure trivial
  | program h => exact h.mono fun _ _ => trivial

theorem bind (h : Upfront a) {k : α → Action β} (hk : ∀ x, Program True (fun e => ¬e.IsCriteria) (k x)) :
    Upfront (a >>= k) := by
  cases h with
  | failure e => exact .failure e
  | program h => exact .program (h.bind hk)

theorem resolve (r : Except CriteriaError α) {k : α → Action β} (hk : ∀ x, r = .ok x → Upfront (k x)) :
    Upfront (Action.resolve r >>= k) := by
  cases r with
  | ok x => exact hk x rfl
  | error e => exact .failure e

theorem lift (r : Except RepositoryError α) {k : α → Action β} (hk : ∀ x, Upfront (k x)) :
    Upfront ((liftM r : Action α) >>= k) := by
  cases r with
  | ok x => exact hk x
  | error e =>
    show Upfront (throw e)
    cases e with
    | criteria e => exact .failure e
    | _ => exact .program (.failure id)

theorem ite {b : Bool} {a₁ a₂ : Action α} (h₁ : Upfront a₁) (h₂ : Upfront a₂) : Upfront (if b then a₁ else a₂) := by
  cases b with
  | true => exact h₁
  | false => exact h₂

end Action.Upfront

/-! ### Rows -/

namespace Rows

open CriteriaStore.Action (Upfront)

variable {mayWrite : Prop} {m : Mapping ε} {flatten : Flattener ε} {filter : Option Filter} {sort : Option SortOrder}
  {fields : Option FieldSet}

/-- What goes wrong with assignments is a missing value. -/
theorem assignments_program {mayRaise : RepositoryError → Prop} (h : ∀ column, mayRaise (.missingColumnValue m.table column))
    (row : Row) (withIdentity : Bool) :
    ∀ e, assignments m row withIdentity m.properties.columns {} = .error e → mayRaise e := by
  intro e he
  cases hlacks : m.lacking? row withIdentity with
  | none =>
    obtain ⟨b, hok⟩ := assignments_eq_ok hlacks {}
    rw [hok] at he
    cases he
  | some column =>
    rw [assignments_eq_error hlacks] at he
    cases he
    exact h column

private theorem update_raises_other (id : Scalar) (row : Row) :
    Program True (fun e => ¬e.IsCriteria) (update m id row) :=
  update_program id (assignments_program (fun _ h => h) row _)

private theorem insert_raises_other (row : Row) : Program True (fun e => ¬e.IsCriteria) (insert m row) :=
  insert_program (assignments_program (fun _ h => h) row _)

private theorem reread_raises_other (id : Scalar) : Program True (fun e => ¬e.IsCriteria) (reread m id) :=
  reread_program fun h => h

/-- Reading identities of a mapped identity column raises no error of its own. -/
theorem findBy_oneOf_program {property : String} (hp : m.identityProperty = .ok property) (ids : List Scalar)
    {mayRaise : RepositoryError → Prop} {projection : Sql.Projection}
    (hproj : Sql.Projection.ofFields m.properties fields = .ok projection) :
    Program mayWrite mayRaise (findBy m (some (oneOf property ids)) none fields) := by
  apply findBy_program
  · intro e he
    rw [hproj] at he
    cases he
  · intro p e he
    obtain ⟨b, hcondition⟩ := Mapping.condition_oneOf (Mapping.get?_of_identityProperty hp) ids {}
    unfold Mapping.selection at he
    rw [hcondition] at he
    cases he

theorem storedKeys_program {property : String} (hp : m.identityProperty = .ok property) (ids : List Scalar)
    {mayRaise : RepositoryError → Prop} : Program mayWrite mayRaise (storedKeys m ids) := by
  have hselect := Mapping.select_identity (Mapping.get?_of_identityProperty hp)
  unfold storedKeys
  rw [hp]
  exact .ite (.value _) ((findBy_oneOf_program hp ids hselect).bind fun _ => .value _)

/-- Apart from storage, updates fail only when a value is missing. -/
theorem updateEach_program {mayRaise : RepositoryError → Prop}
    (h : ∀ column, mayRaise (.missingColumnValue m.table column)) (batch : List (Scalar × Row)) :
    Program True mayRaise (updateEach m batch) := by
  induction batch with
  | nil => exact .value _
  | cons e rest ih =>
    refine (update_program e.1 (assignments_program h e.2 _)).bind fun outcome => ?_
    cases outcome with
    | updated => exact (Program.value _).bind fun _ => ih.bind fun _ => .value _
    | missing => exact (insert_program (assignments_program h e.2 _)).bind fun _ => ih.bind fun _ => .value _

/-- Apart from storage, insertions fail only when a value is missing. -/
theorem insertEach_program {mayRaise : RepositoryError → Prop}
    (h : ∀ column, mayRaise (.missingColumnValue m.table column)) (batch : List (Scalar × Row)) :
    Program True mayRaise (insertEach m batch) := by
  induction batch with
  | nil => exact .value _
  | cons e rest ih => exact (insert_program (assignments_program h e.2 _)).bind fun _ => ih.bind fun _ => .value _

/-- What is done with the rows of a batch after its check. -/
def putChecked (m : Mapping ε) (property : String) (batch : List (Scalar × Row)) : Action (List Row) := do
  let keys ← storedKeys m ((batch.map Prod.fst).filter fun id => !id.isNull)
  let isStored := fun (e : Scalar × Row) => !e.1.isNull && keys.contains e.1.keyText
  let updated ← updateEach m (batch.filter isStored)
  let inserted ← insertEach m (batch.filter fun e => !isStored e)
  findBy m (some (oneOf property (updated ++ inserted))) none none

/-- The condition that reads a batch back names the identity, so it compiles after the writes as it did before them. -/
theorem putChecked_program {property : String} (hp : m.identityProperty = .ok property)
    {mayRaise : RepositoryError → Prop} (h : ∀ column, mayRaise (.missingColumnValue m.table column))
    (batch : List (Scalar × Row)) : Program True mayRaise (putChecked m property batch) := by
  refine (storedKeys_program hp _).bind fun keys => ?_
  exact (updateEach_program h _).bind fun _ => (insertEach_program h _).bind fun _ => findBy_oneOf_program hp _ rfl

theorem find_upfront (m : Mapping ε) (id : Scalar) (fields : Option FieldSet) : Upfront (find m id fields) :=
  .ite (.program (.value _)) (.resolve _ fun _ _ => .program ((Program.report _).bind fun _ => .firstRow? _))

theorem findBy_upfront (m : Mapping ε) (filter : Option Filter) (sort : Option SortOrder) (fields : Option FieldSet) :
    Upfront (findBy m filter sort fields) :=
  .resolve _ fun _ _ => .resolve _ fun _ _ => .program ((Program.report _).bind fun _ => .rows _)

theorem findDistinct_upfront (m : Mapping ε) (distinct : FieldSet) (filter : Option Filter) (sort : Option SortOrder) :
    Upfront (findDistinct m distinct filter sort) :=
  .resolve _ fun _ _ => .resolve _ fun _ _ => .program ((Program.report _).bind fun _ => .rows _)

theorem count_upfront (m : Mapping ε) (filter : Option Filter) : Upfront (count m filter) :=
  .resolve _ fun _ _ => .program ((Program.report _).bind fun _ => .count _ _ _)

/-- Both statements of a page are compiled before either is run. -/
theorem page_upfront (m : Mapping ε) (request : Option PageRequest) : Upfront (page m request) := by
  cases request with
  | none =>
    have hall : Program True (fun e => ¬e.IsCriteria) (findBy m none none none) :=
      findBy_program (fun _ he => nomatch he) fun _ _ he => nomatch he
    exact .program (hall.bind fun _ => ((Program.report _).bind fun _ => .count _ _ _).bind fun _ => .value _)
  | some r =>
    refine .resolve _ fun _ _ => .resolve _ fun _ _ => .resolve _ fun _ _ => .program ?_
    exact (Program.report _).bind fun _ => (Program.report _).bind fun _ =>
      (Program.count _ _ _).bind fun _ => (Program.rows _).bind fun _ => .value _

/-- An entity is flattened before anything is written. -/
theorem put_upfront (m : Mapping ε) (flatten : Flattener ε) (e : ε) : Upfront (put m flatten e) := by
  refine .resolve _ fun row _ => .program ?_
  refine .ite ((Program.value _).bind fun outcome => ?_) ((update_raises_other _ row).bind fun outcome => ?_)
  all_goals
    cases outcome with
    | updated => exact reread_raises_other _
    | missing => exact (insert_raises_other row).bind reread_raises_other

/-- A batch is checked before anything is written. -/
theorem putAll_upfront (m : Mapping ε) (flatten : Flattener ε) (es : List ε) : Upfront (putAll m flatten es) :=
  .ite (.program (.value _)) (.resolve _ fun _ hp => .lift _ fun batch =>
    .program (putChecked_program hp (fun _ h => h) batch))

theorem eraseBy_upfront (m : Mapping ε) (filter : Option Filter) : Upfront (eraseBy m filter) := by
  refine .resolve _ fun x _ => .program ?_
  obtain ⟨condition, b⟩ := x
  have hremoved : Program True (fun e => ¬e.IsCriteria) (do
      Action.built m.table (.write (.delete m.table condition)) b
      Action.write (.delete m.table condition)) := (Program.report _).bind fun _ => .write trivial _
  exact .ite ((Program.report _).bind fun _ => hremoved) hremoved

theorem answer_upfront (m : Mapping ε) (flatten : Flattener ε) (r : RowRequest ε) : Upfront (answer m flatten r) := by
  cases r with
  | shared r =>
    cases r with
    | find id fields => exact (find_upfront m id fields).bind fun _ => .value _
    | «exists» id => exact .program ((exists_program m id).bind fun _ => .value _)
    | findBy filter sort fields => exact (findBy_upfront m filter sort fields).bind fun _ => .value _
    | findDistinct distinct filter sort => exact (findDistinct_upfront m distinct filter sort).bind fun _ => .value _
    | count filter => exact (count_upfront m filter).bind fun _ => .value _
    | put e => exact (put_upfront m flatten e).bind fun _ => .value _
    | putAll es => exact (putAll_upfront m flatten es).bind fun _ => .value _
    | erase id => exact .program ((erase_program m id).bind fun _ => .value _)
    | eraseBy filter => exact (eraseBy_upfront m filter).bind fun _ => .value _
    | page request => exact (page_upfront m request).bind fun _ => .value _
  | update id row => exact .program ((update_raises_other id row).bind fun _ => .value _)
  | insert row => exact .program ((insert_raises_other row).bind fun _ => .value _)

end Rows

/-! ### Entities -/

namespace EntityRepository

open CriteriaStore.Action (Upfront)

variable (r : EntityRepository ε)

private theorem hydrate_raises_other (row : Row) :
    Program True (fun e => ¬e.IsCriteria) (liftM (r.hydrate row) : Action (Option ε)) :=
  .lift _ fun e he => by
    rw [r.hydrate_error he]
    exact id

private theorem hydrateAll_raises_other (rows : List Row) :
    Program True (fun e => ¬e.IsCriteria) (liftM (r.hydrateAll rows) : Action (List ε)) :=
  .lift _ fun e he => by
    rw [r.hydrateAll_error he]
    exact id

theorem find_upfront (id : Scalar) (fields : Option FieldSet) : Upfront (r.find id fields) := by
  refine (Rows.find_upfront r.mapping id (r.withIdentity fields)).bind fun row => ?_
  cases row with
  | none => exact .value none
  | some row => exact r.hydrate_raises_other row

theorem put_upfront (e : ε) : Upfront (r.put e) := by
  refine (Rows.put_upfront r.mapping r.flatten e).bind fun row => (r.hydrate_raises_other row).bind fun entity => ?_
  cases entity with
  | none => exact .failure id
  | some e => exact .value e

theorem page_upfront (request : Option PageRequest) : Upfront (r.page request) := by
  cases request with
  | none =>
    exact (Rows.page_upfront r.mapping none).bind fun p => (r.hydrateAll_raises_other p.content).bind fun _ => .value _
  | some request =>
    exact (Rows.page_upfront r.mapping _).bind fun p => (r.hydrateAll_raises_other p.content).bind fun _ => .value _

/-- Every call fails on its criteria before it does anything, or does not fail on them. -/
theorem answer_upfront (request : Request ε) : Upfront (r.answer request) := by
  cases request with
  | find id fields => exact (r.find_upfront id fields).bind fun _ => .value _
  | «exists» id => exact .program ((Rows.exists_program r.mapping id).bind fun _ => .value _)
  | findBy filter sort fields =>
    exact ((Rows.findBy_upfront r.mapping filter sort _).bind r.hydrateAll_raises_other).bind fun _ => .value _
  | findDistinct distinct filter sort =>
    exact ((Rows.findDistinct_upfront r.mapping distinct filter sort).bind r.hydrateAll_raises_other).bind
      fun _ => .value _
  | count filter => exact (Rows.count_upfront r.mapping filter).bind fun _ => .value _
  | put e => exact (r.put_upfront e).bind fun _ => .value _
  | putAll es =>
    exact ((Rows.putAll_upfront r.mapping r.flatten es).bind r.hydrateAll_raises_other).bind fun _ => .value _
  | erase id => exact .program ((Rows.erase_program r.mapping id).bind fun _ => .value _)
  | eraseBy filter => exact (Rows.eraseBy_upfront r.mapping filter).bind fun _ => .value _
  | page request => exact (r.page_upfront request).bind fun _ => .value _

/-- A call that fails on its criteria has built no statement and left its connection as it was, and it fails in the same
way on every other connection. -/
theorem answer_error_of_criteria {r : EntityRepository ε} {request : Request ε} {c : Connection} {j : Journal}
    {e : CriteriaError} (h : (r.answer request).runOn c = (.error (.criteria e), j)) :
    j = { connection := c } ∧
      ∀ c', (r.answer request).runOn c' = (.error (.criteria e), { connection := c' }) := by
  obtain ⟨hsame, helse⟩ := (r.answer_upfront request).exec_of_criteria h
  exact ⟨hsame, fun c' => helse _⟩

/-- Tags with a label, sorted by a color that tags do not have: the page is refused on every connection. -/
theorem answer_error_of_unmapped_sort :
    let request : Request (Scalar × Row) := .page (some {
      number := 1
      size := 2
      filter := some (Filter.empty.push .must .equals ⟨"label", .scalar (.text "first")⟩)
      sort := some (SortOrder.uniform ["color"] .asc)
      accepted := by decide })
    let refusal := RepositoryError.criteria (.unmappedProperty "color")
    (Sample.repository.answer request).runOn Sample.connection = (.error refusal, { connection := Sample.connection }) ∧
      ∀ c, (Sample.repository.answer request).runOn c = (.error refusal, { connection := c }) := by
  intro request refusal
  have hrun : (Sample.repository.answer request).runOn Sample.connection =
      (.error refusal, { connection := Sample.connection }) := rfl
  exact ⟨hrun, (answer_error_of_criteria hrun).2⟩

end EntityRepository

end CriteriaStore
