import CriteriaStore.Repository.Paging
import CriteriaStore.Repository.Writing
/-!
# Entities

The repository of entities: rows are turned into entities by the mapping. A projection always keeps the
identity, and a page reports the request of its caller.

* An `EntityRepository` exists only for a mapping whose identity column has a property.
* `hydrate` drops rows without columns and refuses rows of which the mapping makes no entity.
-/

namespace CriteriaStore

/-- A mapping that identifies its entities, and the way they are flattened. -/
structure EntityRepository (ε : Type) where
  mapping : Mapping ε
  flatten : Flattener ε
  identityProperty : String
  identified : mapping.identityProperty = .ok identityProperty

namespace EntityRepository

variable {ε : Type}

/-- The repository of a mapping, if the mapping identifies its entities. -/
def create (m : Mapping ε) (flatten : Flattener ε) : Except CriteriaError (EntityRepository ε) :=
  match h : m.identityProperty with
  | .ok p => .ok ⟨m, flatten, p, h⟩
  | .error e => .error e

/-- The entity of a row, none for a row without columns. -/
def hydrate (r : EntityRepository ε) (row : Row) : Except RepositoryError (Option ε) :=
  if row.isEmpty then .ok none
  else
    match r.mapping.ofRow? row with
    | some e => .ok (some e)
    | none => .error (.hydration r.mapping.table)

/-- The entities of rows, in their order. -/
def hydrateAll (r : EntityRepository ε) : List Row → Except RepositoryError (List ε)
  | [] => .ok []
  | row :: rest =>
    match r.hydrate row with
    | .error e => .error e
    | .ok entity =>
      match r.hydrateAll rest with
      | .ok es => .ok (entity.toList ++ es)
      | .error e => .error e

/-- Fields to read together with the identity; no fields, or none at all, leave the choice open. -/
def withIdentity (r : EntityRepository ε) (fields : Option FieldSet) : Option FieldSet :=
  match fields with
  | some fs => if fs.isEmpty then none else some (fs.add r.identityProperty)
  | none => none

/-- The entity with an identity. -/
def find (r : EntityRepository ε) (id : Scalar) (fields : Option FieldSet) : Action (Option ε) := do
  match ← Rows.find r.mapping id (r.withIdentity fields) with
  | some row => r.hydrate row
  | none => return none

/-- Whether there is an entity with an identity. -/
def «exists» (r : EntityRepository ε) (id : Scalar) : Action Bool := Rows.exists r.mapping id

/-- The entities of a filter in a sort order. -/
def findBy (r : EntityRepository ε) (filter : Option Filter) (sort : Option SortOrder) (fields : Option FieldSet) :
    Action (List ε) := do
  r.hydrateAll (← Rows.findBy r.mapping filter sort (r.withIdentity fields))

/-- The entities of different rows. -/
def findDistinct (r : EntityRepository ε) (distinct : FieldSet) (filter : Option Filter) (sort : Option SortOrder) :
    Action (List ε) := do
  r.hydrateAll (← Rows.findDistinct r.mapping distinct filter sort)

/-- The number of entities of a filter. -/
def count (r : EntityRepository ε) (filter : Option Filter) : Action Nat := Rows.count r.mapping filter

/-- Store an entity; gives the stored one. -/
def put (r : EntityRepository ε) (e : ε) : Action ε := do
  match ← r.hydrate (← Rows.put r.mapping r.flatten e) with
  | some e => return e
  | none => throw (.hydration r.mapping.table)

/-- Store a batch of entities; gives the stored ones. -/
def putAll (r : EntityRepository ε) (es : List ε) : Action (List ε) := do
  r.hydrateAll (← Rows.putAll r.mapping r.flatten es)

/-- Remove the entity with an identity; gives the number of removed records. -/
def erase (r : EntityRepository ε) (id : Scalar) : Action Nat := Rows.erase r.mapping id

/-- Remove the entities of a filter; gives their number. -/
def eraseBy (r : EntityRepository ε) (filter : Option Filter) : Action Nat := Rows.eraseBy r.mapping filter

/-- The page of a request; without request, all entities as one page. -/
def page (r : EntityRepository ε) : Option PageRequest → Action (Page ε)
  | none => do
    let p ← Rows.page r.mapping none
    return Page.single (← r.hydrateAll p.content) p.total
  | some request => do
    let widened := match r.withIdentity request.fields with
      | some fields => { request with fields := some fields }
      | none => request
    let p ← Rows.page r.mapping (some widened)
    return Page.of (← r.hydrateAll p.content) p.total request

end EntityRepository

end CriteriaStore
