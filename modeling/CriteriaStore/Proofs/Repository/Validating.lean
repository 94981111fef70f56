import CriteriaStore.Proofs.Criteria.Rejecting
import CriteriaStore.Proofs.Repository.Checking
import CriteriaStore.Proofs.Repository.Narrowing
import CriteriaStore.Proofs.Repository.Projecting
import CriteriaStore.Proofs.Sql.Ordering

/-!
# Mappings are checked once

A repository is made exactly of a mapping that reaches its identity column. Its operations look the identity property up
again, by column, and resolve it again to a column: for a widened projection, for the look-up of a batch, and to read a
batch back after it was written. Both directions agree (`Mapping.identityProperty_eq_ok_iff`, `Mapping.column_identity`), so
none of this can fail.

What an operation does raise about properties is about a property that is not mapped (`EntityRepository.answer_program`),
which the identity property is not, whatever was done before (`EntityRepository.create_suffices`).
-/

namespace CriteriaStore

open Storage (Connection)
open CriteriaStore.Action (Program)

variable {ε : Type}

/-! ### The identity property -/

namespace Mapping

variable {m : Mapping ε} {property : String}

/-- The identity property is the first one of the identity column. -/
theorem identityProperty_eq_ok_iff :
    m.identityProperty = .ok property ↔
      ∃ before after, m.properties.entries = before ++ (property, m.identity) :: after ∧
        ∀ e ∈ before, e.2 ≠ m.identity := by
  have hfirst (p : String) : m.properties.propertyOf? m.identity = some p ↔
      ∃ before after, m.properties.entries = before ++ (p, m.identity) :: after ∧ ∀ e ∈ before, e.2 ≠ m.identity := by
    unfold PropertyMap.propertyOf?
    rw [Option.map_eq_some_iff]
    constructor
    · rintro ⟨e, he, rfl⟩
      obtain ⟨hcolumn, before, after, hentries, hbefore⟩ := List.find?_eq_some_iff_append.1 he
      have hcolumn : e.2 = m.identity := of_decide_eq_true hcolumn
      exact ⟨before, after, by rw [hentries, ← hcolumn], fun e' he' => by simpa using hbefore e' he'⟩
    · rintro ⟨before, after, hentries, hbefore⟩
      refine ⟨(p, m.identity), List.find?_eq_some_iff_append.2 ⟨by simp, before, after, hentries, ?_⟩, rfl⟩
      intro e he
      simpa using hbefore e he
  rw [← hfirst]
  unfold identityProperty
  cases m.properties.propertyOf? m.identity <;> simp

/-- The identity property is resolved to the identity column. -/
theorem column_identity (h : m.identityProperty = .ok property) :
    PropertyMap.column m.properties property = .ok m.identity := by
  unfold PropertyMap.column
  rw [get?_of_identityProperty h]

theorem identityProperty_of_notMem (h : m.identity ∉ m.properties.columns) :
    m.identityProperty = .error (.unmappedIdentity m.table m.identity) := by
  cases hproperty : m.identityProperty with
  | ok property =>
    have hmem := OrderedMap.get?_eq_some_iff.1 (get?_of_identityProperty hproperty)
    exact absurd (List.mem_map_of_mem hmem) h
  | error e =>
    unfold identityProperty at hproperty
    split at hproperty
    · cases hproperty
    · rw [← hproperty]

/-- Fields to read together with the identity, whose property is looked up for it. -/
def widened (m : Mapping ε) : Option FieldSet → Except CriteriaError (Option FieldSet)
  | some fields =>
    if fields.isEmpty then .ok none
    else
      match m.identityProperty with
      | .ok property => .ok (some (fields.add property))
      | .error e => .error e
  | none => .ok none

end Mapping

/-! ### Errors about properties -/

/-- Whether an error is one that resolving criteria comes to. A property that it calls unmapped is not mapped. -/
def CriteriaError.OfCriteria (properties : PropertyMap) : CriteriaError → Prop
  | unmappedProperty property => properties.get? property = none
  | operandMismatch _ _ => True
  | _ => False

section Resolving

variable {m : Mapping ε} {properties : PropertyMap} {e : CriteriaError}

theorem PropertyMap.select_error {fields : FieldSet} (h : properties.select fields = .error e) :
    e.OfCriteria properties := by
  obtain ⟨_, p, _, -, -, hunmapped, rfl⟩ := PropertyMap.select_eq_error.1 h
  simpa [OrderedMap.contains, CriteriaError.OfCriteria] using hunmapped

theorem Sql.Projection.ofFields_error {fields : Option FieldSet} (h : ofFields properties fields = .error e) :
    e.OfCriteria properties := by
  cases fields with
  | none => cases h
  | some fields =>
    unfold ofFields at h
    simp only at h
    split at h
    · cases h
    · cases hselect : properties.select fields with
      | ok names => simp [hselect] at h
      | error e' =>
        simp only [hselect, Except.error.injEq] at h
        exact h ▸ PropertyMap.select_error hselect

theorem Sql.Projection.ofDistinct_error {fields : FieldSet} (h : ofDistinct properties fields = .error e) :
    e.OfCriteria properties := by
  unfold ofDistinct at h
  cases hselect : properties.select fields with
  | ok names => simp [hselect] at h
  | error e' =>
    simp only [hselect, Except.error.injEq] at h
    exact h ▸ PropertyMap.select_error hselect

theorem Rows.pageProjection_error {request : PageRequest} (h : pageProjection m request = .error e) :
    e.OfCriteria m.properties := by
  unfold pageProjection at h
  split at h
  · split at h
    · exact Sql.Projection.ofFields_error h
    · exact Sql.Projection.ofDistinct_error h
  · exact Sql.Projection.ofFields_error h

theorem Condition.rejection_ofCriteria (op : Operator) (c : Condition) :
    (c.rejection properties op).OfCriteria properties := by
  unfold rejection
  split
  · trivial
  · rename_i hunmapped
    simpa [CriteriaError.OfCriteria] using hunmapped

theorem Mapping.condition_error {filter : Option Filter} {b : Bindings} (h : m.condition filter b = .error e) :
    e.OfCriteria m.properties := by
  cases filter with
  | none => cases h
  | some f =>
    unfold condition at h
    rcases Filter.compile_cases m.properties f b with ⟨-, w, b', hok⟩ | ⟨_, clause, op, c, _, -, -, -, herror⟩
    · simp [hok] at h
    · simp only [herror, Except.error.injEq] at h
      exact h ▸ c.rejection_ofCriteria _

theorem SortOrder.terms_error {s : SortOrder} (h : s.terms properties = .error e) : e.OfCriteria properties := by
  obtain ⟨_, k, _, -, -, hunmapped, rfl⟩ := terms_eq_error_iff.1 h
  exact hunmapped

theorem Mapping.selection_error {projection : Sql.Projection} {filter : Option Filter} {sort : Option SortOrder}
    {b : Bindings} (h : m.selection projection filter sort b = .error e) : e.OfCriteria m.properties := by
  unfold selection Sql.Select.orderBy at h
  rcases hcondition : m.condition filter b with e' | ⟨w, b'⟩
  · simp only [hcondition, Except.error.injEq] at h
    exact h ▸ condition_error hcondition
  · cases hterms : (sort.getD {}).terms m.properties with
    | ok terms => simp [hcondition, hterms] at h
    | error e' =>
      simp only [hcondition, hterms, Except.error.injEq] at h
      exact h ▸ SortOrder.terms_error hterms

end Resolving

/-- Whether an error, if it is about criteria, comes of resolving them or is one of some flaws. -/
def RepositoryError.Accounted (properties : PropertyMap) (flaw : CriteriaError → Prop) : RepositoryError → Prop
  | criteria e => e.OfCriteria properties ∨ flaw e
  | _ => True

/-! ### Rows -/

namespace Rows

variable {m : Mapping ε} {flatten : Flattener ε} {flaw : CriteriaError → Prop} {filter : Option Filter}

theorem condition_program :
    Program True (RepositoryError.Accounted m.properties flaw) (Action.resolve (m.condition filter {})) :=
  .resolve _ fun _ he => .inl (Mapping.condition_error he)

theorem selection_program (projection : Sql.Projection) (sort : Option SortOrder) (b : Bindings) :
    Program True (RepositoryError.Accounted m.properties flaw)
      (Action.resolve (m.selection projection filter sort b)) :=
  .resolve _ fun _ he => .inl (Mapping.selection_error he)

theorem find_accounted (id : Scalar) (fields : Option FieldSet) :
    Program True (RepositoryError.Accounted m.properties flaw) (find m id fields) :=
  find_program id fun _ he => .inl (Sql.Projection.ofFields_error he)

theorem findBy_accounted (sort : Option SortOrder) (fields : Option FieldSet) :
    Program True (RepositoryError.Accounted m.properties flaw) (findBy m filter sort fields) :=
  findBy_program (fun _ he => .inl (Sql.Projection.ofFields_error he)) fun _ _ he => .inl (Mapping.selection_error he)

theorem findDistinct_accounted (distinct : FieldSet) (sort : Option SortOrder) :
    Program True (RepositoryError.Accounted m.properties flaw) (findDistinct m distinct filter sort) := by
  have hprojection : Program True (RepositoryError.Accounted m.properties flaw)
      (Action.resolve (Sql.Projection.ofDistinct m.properties distinct)) :=
    .resolve _ fun _ he => .inl (Sql.Projection.ofDistinct_error he)
  exact hprojection.bind fun projection =>
    (selection_program projection sort {}).bind fun _ => (Program.report _).bind fun _ => .rows _

theorem count_accounted : Program True (RepositoryError.Accounted m.properties flaw) (count m filter) :=
  condition_program.bind fun _ => (Program.report _).bind fun _ => .count _ _ _

theorem eraseBy_accounted : Program True (RepositoryError.Accounted m.properties flaw) (eraseBy m filter) := by
  refine condition_program.bind fun (condition, b) => ?_
  have hremoved : Program True (RepositoryError.Accounted m.properties flaw) (do
      Action.built m.table (.write (.delete m.table condition)) b
      Action.write (.delete m.table condition)) := (Program.report _).bind fun _ => .write trivial _
  exact .ite ((Program.report _).bind fun _ => hremoved) hremoved

theorem page_accounted (request : Option PageRequest) :
    Program True (RepositoryError.Accounted m.properties flaw) (page m request) := by
  cases request with
  | none => exact (findBy_accounted none none).bind fun _ => count_accounted.bind fun _ => .value _
  | some request =>
    have hprojection : Program True (RepositoryError.Accounted m.properties flaw)
        (Action.resolve (pageProjection m request)) := .resolve _ fun _ he => .inl (pageProjection_error he)
    refine hprojection.bind fun projection => condition_program.bind fun (condition, b) => ?_
    refine (selection_program projection request.sort b).bind fun _ => ?_
    exact (Program.report _).bind fun _ => (Program.report _).bind fun _ =>
      (Program.count _ _ _).bind fun _ => (Program.rows _).bind fun _ => .value _

private theorem insert_accounted (row : Row) :
    Program True (RepositoryError.Accounted m.properties flaw) (insert m row) :=
  insert_program (assignments_program (fun _ => trivial) row _)

private theorem reread_accounted (id : Scalar) :
    Program True (RepositoryError.Accounted m.properties flaw) (reread m id) := reread_program trivial

/-- An entity is stored or has a flaw that its flattening tells. -/
theorem put_accounted {x : ε} (hflaw : ∀ e, flatten m x = .error e → flaw e) :
    Program True (RepositoryError.Accounted m.properties flaw) (put m flatten x) := by
  have hflattened : Program True (RepositoryError.Accounted m.properties flaw) (Action.resolve (flatten m x)) :=
    .resolve _ fun e he => .inr (hflaw e he)
  refine hflattened.bind fun row => ?_
  have hassigned : ∀ e, assignments m row false m.properties.columns {} = .error e →
      RepositoryError.Accounted m.properties flaw e := assignments_program (fun _ => trivial) row false
  have hupdated := update_program (m.identityOf x) hassigned
  refine .ite ((Program.value _).bind fun outcome => ?_) (hupdated.bind fun outcome => ?_)
  all_goals
    cases outcome with
    | updated => exact reread_accounted _
    | missing => exact (insert_accounted row).bind reread_accounted

/-- A batch is stored or has an entity with a flaw; the identity property is there when it is looked up. -/
theorem putAll_accounted {property : String} (hp : m.identityProperty = .ok property) {es : List ε}
    (hflaw : ∀ x ∈ es, ∀ e, flatten m x = .error e → flaw e) :
    Program True (RepositoryError.Accounted m.properties flaw) (putAll m flatten es) := by
  have hchecked : Program True (RepositoryError.Accounted m.properties flaw)
      (liftM (checked m flatten 0 es) : Action (List (Scalar × Row))) := by
    refine .lift _ fun e he => ?_
    obtain ⟨before, x, after, rfl, -, hx⟩ := checked_eq_error_iff.1 he
    cases e with
    | criteria err =>
      obtain ⟨-, hflat⟩ := fault?_eq_criteria.1 hx
      exact .inr (hflaw x (by simp) err hflat)
    | _ => trivial
  have hwritten (batch : List (Scalar × Row)) :
      Program True (RepositoryError.Accounted m.properties flaw) (putChecked m property batch) :=
    putChecked_program hp (fun _ => trivial) batch
  unfold putAll
  rw [hp]
  exact .ite (.value _) (hchecked.bind hwritten)

end Rows

/-! ### Entities -/

/-- The entities that a call is about. -/
def Request.entities : Request ε → List ε
  | put x => [x]
  | putAll xs => xs
  | _ => []

namespace EntityRepository

variable {r : EntityRepository ε} {m : Mapping ε} {flatten : Flattener ε}

/-- Whether an error is that of an entity which cannot be flattened. -/
def Flaws (r : EntityRepository ε) (request : Request ε) (e : CriteriaError) : Prop :=
  ∃ x ∈ request.entities, r.flatten r.mapping x = .error e

private theorem hydrate_accounted (flaw : CriteriaError → Prop) (row : Row) :
    Program True (RepositoryError.Accounted r.mapping.properties flaw) (liftM (r.hydrate row) : Action (Option ε)) :=
  .lift _ fun e he => by
    rw [r.hydrate_error he]
    trivial

private theorem hydrateAll_accounted (flaw : CriteriaError → Prop) (rows : List Row) :
    Program True (RepositoryError.Accounted r.mapping.properties flaw) (liftM (r.hydrateAll rows) : Action (List ε)) :=
  .lift _ fun e he => by
    rw [r.hydrateAll_error he]
    trivial

private theorem page_accounted (flaw : CriteriaError → Prop) (request : Option PageRequest) :
    Program True (RepositoryError.Accounted r.mapping.properties flaw) (r.page request) := by
  cases request with
  | none =>
    exact (Rows.page_accounted none).bind fun p => (hydrateAll_accounted flaw p.content).bind fun _ => .value _
  | some request =>
    exact (Rows.page_accounted _).bind fun p => (hydrateAll_accounted flaw p.content).bind fun _ => .value _

/-- A call that fails on criteria names a property that is not mapped or an operand that does not fit, or it is about an
entity that cannot be flattened. -/
theorem answer_program (r : EntityRepository ε) (request : Request ε) :
    Program True (RepositoryError.Accounted r.mapping.properties (r.Flaws request)) (r.answer request) := by
  cases request with
  | find id fields =>
    refine Program.bind ((Rows.find_accounted id _).bind fun row => ?_) fun _ => .value _
    cases row with
    | none => exact .value none
    | some row => exact hydrate_accounted _ row
  | «exists» id => exact (Rows.exists_program r.mapping id).bind fun _ => .value _
  | findBy filter sort fields =>
    exact ((Rows.findBy_accounted sort _).bind (hydrateAll_accounted _)).bind fun _ => .value _
  | findDistinct distinct filter sort =>
    exact ((Rows.findDistinct_accounted distinct sort).bind (hydrateAll_accounted _)).bind fun _ => .value _
  | count filter => exact Rows.count_accounted.bind fun _ => .value _
  | put x =>
    have hput : Program True (RepositoryError.Accounted r.mapping.properties (r.Flaws (.put x)))
        (Rows.put r.mapping r.flatten x) := Rows.put_accounted fun e he => ⟨x, List.mem_singleton_self x, he⟩
    refine Program.bind (hput.bind fun row => (hydrate_accounted _ row).bind fun entity => ?_) fun _ => .value _
    cases entity with
    | none => exact .failure trivial
    | some entity => exact .value entity
  | putAll xs =>
    have hput : Program True (RepositoryError.Accounted r.mapping.properties (r.Flaws (.putAll xs)))
        (Rows.putAll r.mapping r.flatten xs) := Rows.putAll_accounted r.identified fun x hx e he => ⟨x, hx, he⟩
    exact (hput.bind (hydrateAll_accounted _)).bind fun _ => .value _
  | erase id => exact (Rows.erase_program r.mapping id).bind fun _ => .value _
  | eraseBy filter => exact Rows.eraseBy_accounted.bind fun _ => .value _
  | page request => exact (page_accounted _ request).bind fun _ => .value _

/-! ### Repositories -/

/-- The replies to calls that are made one after the other. -/
def replies (r : EntityRepository ε) : List (Request ε) → Connection → List (Except RepositoryError (Answer ε))
  | [], _ => []
  | request :: rest, c =>
    ((r.answer request).runOn c).1 :: r.replies rest ((r.answer request).runOn c).2.connection

/-- Every criteria error among the replies is accounted for by its own call. -/
theorem ofCriteria_of_mem_replies {requests : List (Request ε)} {c : Connection} {e : CriteriaError}
    (h : .error (.criteria e) ∈ r.replies requests c) :
    e.OfCriteria r.mapping.properties ∨ ∃ request ∈ requests, r.Flaws request e := by
  induction requests generalizing c with
  | nil => cases h
  | cons request rest ih =>
    rcases List.mem_cons.1 h with hfirst | hlater
    · have hexec : ((r.answer request).exec { connection := c }).1 = .error (.criteria e) := hfirst.symm
      rcases (answer_program r request).raises (Prod.ext hexec rfl) with haccounted | ⟨phase, s, hstorage⟩
      · exact haccounted.imp_right fun hflaw => ⟨request, List.mem_cons_self, hflaw⟩
      · cases hstorage
    · rcases ih hlater with hcriteria | ⟨request', hmem, hflaw⟩
      · exact .inl hcriteria
      · exact .inr ⟨request', List.mem_cons_of_mem _ hmem, hflaw⟩

/-- Whether an error says that the identity column or the identity property is not mapped. -/
def BlamesIdentity (r : EntityRepository ε) : CriteriaError → Prop
  | .unmappedIdentity _ _ => True
  | .unmappedProperty property => property = r.identityProperty
  | _ => False

theorem not_blamesIdentity_of_ofCriteria {e : CriteriaError} (h : e.OfCriteria r.mapping.properties) :
    ¬r.BlamesIdentity e := by
  intro hblames
  cases e with
  | unmappedProperty property =>
    have hunmapped : r.mapping.properties.get? property = none := h
    have hsame : property = r.identityProperty := hblames
    rw [hsame, Mapping.get?_of_identityProperty r.identified] at hunmapped
    cases hunmapped
  | unmappedIdentity table identity => exact h
  | _ => exact hblames

private theorem collect_error {table : String} {flat : OrderedMap String Scalar} {entries : List (String × String)}
    {row : Row} {e : CriteriaError} (h : Flattener.collect table flat entries row = .error e) :
    ∃ reason, e = .unflattenable table reason := by
  induction entries generalizing row with
  | nil => cases h
  | cons entry rest ih =>
    unfold Flattener.collect at h
    split at h
    · exact ih h
    · cases h
      exact ⟨_, rfl⟩

/-- The flatteners of the library tell nothing about the identity. -/
theorem not_blamesIdentity_of_flattened (hflatten : flatten = .mapped ∨ ∃ serialize, flatten = .serialized serialize)
    {x : ε} {e : CriteriaError} (h : flatten m x = .error e) : ¬r.BlamesIdentity e := by
  rcases hflatten with rfl | ⟨serialize, rfl⟩
  · cases h
  · have hreason : ∃ reason, e = .unflattenable m.table reason := by
      unfold Flattener.serialized at h
      split at h
      · cases h
        exact ⟨_, rfl⟩
      · exact collect_error h
    obtain ⟨reason, rfl⟩ := hreason
    exact id

theorem create_eq_ok_iff : create m flatten = .ok r ↔ r.mapping = m ∧ r.flatten = flatten := by
  obtain ⟨mapping, flatten', property, identified⟩ := r
  unfold create
  split
  · rename_i p hp
    constructor
    · intro h
      cases h
      exact ⟨rfl, rfl⟩
    · rintro ⟨rfl, rfl⟩
      have hsame : p = property := Except.ok.inj (hp.symm.trans identified)
      subst hsame
      rfl
  · rename_i e he
    constructor
    · intro h
      cases h
    · rintro ⟨rfl, rfl⟩
      have hfalse := he.symm.trans identified
      cases hfalse

theorem exists_create_iff : (∃ r, create m flatten = .ok r) ↔ m.identity ∈ m.properties.columns := by
  constructor
  · rintro ⟨r, hr⟩
    obtain ⟨rfl, -⟩ := create_eq_ok_iff.1 hr
    exact identity_mem_columns
  · intro h
    obtain ⟨property, hproperty⟩ := Mapping.exists_identityProperty h
    exact ⟨⟨m, flatten, property, hproperty⟩, create_eq_ok_iff.2 ⟨rfl, rfl⟩⟩

theorem create_of_notMem (h : m.identity ∉ m.properties.columns) :
    create m flatten = .error (.unmappedIdentity m.table m.identity) := by
  have hproperty := Mapping.identityProperty_of_notMem h
  unfold create
  split
  · rename_i p hp
    rw [hp] at hproperty
    cases hproperty
  · rename_i e he
    rw [he] at hproperty
    rw [Except.error.inj hproperty]

/-- Looking the identity property up again gives the one that was found at first. -/
theorem widened_eq (r : EntityRepository ε) (fields : Option FieldSet) :
    r.mapping.widened fields = .ok (r.withIdentity fields) := by
  cases fields with
  | none => rfl
  | some fields =>
    unfold Mapping.widened withIdentity
    rw [r.identified]
    by_cases hempty : fields.isEmpty <;> simp [hempty]

theorem exists_projection_withIdentity (r : EntityRepository ε) {fields : FieldSet}
    (hmapped : ∀ p ∈ fields.names, r.mapping.properties.contains p) :
    ∃ projection, Sql.Projection.ofFields r.mapping.properties (r.withIdentity (some fields)) = .ok projection := by
  unfold withIdentity
  by_cases hempty : fields.isEmpty
  · simp only [hempty, if_true]
    exact ⟨.all, rfl⟩
  · obtain ⟨names, hnames⟩ := exists_projection (fields.isEmpty_add r.identityProperty) (contains_of_mem_add hmapped)
    simp only [hempty, Bool.false_eq_true, if_false]
    exact ⟨_, hnames⟩

/-- A repository is made of a mapping exactly when the identity column is among its columns. Then the identity property is
the first one of the identity column and is resolved to it again; widened projections are found whenever the fields of the
call are, and the condition of a batch always. No call, in any sequence of calls on any connection, is answered by an
error that the identity column or the identity property is not mapped, unless the flattener itself says so of an entity of
the call, which the flatteners of the library do not. -/
theorem create_suffices (m : Mapping ε) (flatten : Flattener ε) :
    ((∃ r, create m flatten = .ok r) ↔ m.identity ∈ m.properties.columns) ∧
      (m.identity ∉ m.properties.columns → create m flatten = .error (.unmappedIdentity m.table m.identity)) ∧
      ∀ r, create m flatten = .ok r →
        m.identityProperty = .ok r.identityProperty ∧
        (∃ before after, m.properties.entries = before ++ (r.identityProperty, m.identity) :: after ∧
          ∀ e ∈ before, e.2 ≠ m.identity) ∧
        PropertyMap.column m.properties r.identityProperty = .ok m.identity ∧
        (∀ fields, m.widened fields = .ok (r.withIdentity fields)) ∧
        (∀ fields : FieldSet, (∀ p ∈ fields.names, m.properties.contains p) →
          ∃ projection, Sql.Projection.ofFields m.properties (r.withIdentity (some fields)) = .ok projection) ∧
        (∀ ids b, ∃ w b', m.condition (some (Rows.oneOf r.identityProperty ids)) b = .ok (w, b')) ∧
        ∀ requests c e, .error (.criteria e) ∈ r.replies requests c → r.BlamesIdentity e →
          (∃ request ∈ requests, ∃ x ∈ request.entities, flatten m x = .error e) ∧
            flatten ≠ .mapped ∧ ∀ serialize, flatten ≠ .serialized serialize := by
  refine ⟨exists_create_iff, create_of_notMem, fun r hr => ?_⟩
  obtain ⟨rfl, rfl⟩ := create_eq_ok_iff.1 hr
  have hproperty := Mapping.get?_of_identityProperty r.identified
  refine ⟨r.identified, Mapping.identityProperty_eq_ok_iff.1 r.identified, Mapping.column_identity r.identified,
    r.widened_eq, fun _ => r.exists_projection_withIdentity, fun ids b => ?_, ?_⟩
  · obtain ⟨b', hcondition⟩ := Mapping.condition_oneOf hproperty ids b
    exact ⟨_, b', hcondition⟩
  · intro requests c e he hblames
    rcases ofCriteria_of_mem_replies he with hcriteria | ⟨request, hmem, x, hx, hflat⟩
    · exact absurd hblames (not_blamesIdentity_of_ofCriteria hcriteria)
    · refine ⟨⟨request, hmem, x, hx, hflat⟩, fun hmapped => ?_, fun serialize hserialized => ?_⟩
      · exact not_blamesIdentity_of_flattened (.inl hmapped) hflat hblames
      · exact not_blamesIdentity_of_flattened (.inr ⟨serialize, hserialized⟩) hflat hblames

/-- Two properties of the identity column, none of them the first property: the first of the two identifies. After a batch
that is stored, a projection to a color is refused for the color; without the two properties there is no repository. -/
theorem create_suffices_of_shared_identity :
    let shared := { Sample.tags with
      properties := OrderedMap.ofList [("label", "label"), ("key", "tag_id"), ("id", "tag_id")] }
    let lacking := { Sample.tags with properties := OrderedMap.ofList [("label", "label")] }
    let r : EntityRepository (Scalar × Row) := ⟨shared, .mapped, "key", rfl⟩
    let requests : List (Request (Scalar × Row)) :=
      [.putAll [Sample.tag "b" "second"], .findBy none none (some (FieldSet.ofList ["color"]))]
    create shared .mapped = .ok r ∧ PropertyMap.column shared.properties "key" = .ok "tag_id" ∧
      .error (.criteria (.unmappedProperty "color")) ∈ r.replies requests Sample.connection ∧
      ¬r.BlamesIdentity (.unmappedProperty "color") ∧
      create lacking .mapped = .error (.unmappedIdentity "tags" "tag_id") := by
  intro shared lacking r requests
  have hr : create shared .mapped = .ok r := create_eq_ok_iff.2 ⟨rfl, rfl⟩
  have hcolor : .error (.criteria (.unmappedProperty "color")) ∈ r.replies requests Sample.connection :=
    .tail _ (.head _)
  obtain ⟨-, -, hcolumn, -, -, -, hreplies⟩ := (create_suffices shared .mapped).2.2 r hr
  refine ⟨hr, hcolumn, hcolor, fun hblames => ?_, (create_suffices lacking .mapped).2.1 (by decide)⟩
  exact (hreplies requests Sample.connection _ hcolor hblames).2.1 rfl

end EntityRepository

end CriteriaStore
