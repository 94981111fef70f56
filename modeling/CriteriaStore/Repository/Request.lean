import CriteriaStore.Repository.Entities
/-!
# Requests

Calls of a repository as data, so that a sequence of calls can be written down, run in or outside of a
transaction, and compared.
-/

namespace CriteriaStore

/-- A call that repositories of rows and of entities answer alike. -/
inductive Request (ε : Type) where
  | find (id : Scalar) (fields : Option FieldSet)
  | «exists» (id : Scalar)
  | findBy (filter : Option Filter) (sort : Option SortOrder) (fields : Option FieldSet)
  | findDistinct (distinct : FieldSet) (filter : Option Filter) (sort : Option SortOrder)
  | count (filter : Option Filter)
  | put (e : ε)
  | putAll (es : List ε)
  | erase (id : Scalar)
  | eraseBy (filter : Option Filter)
  | page (r : Option PageRequest)

/-- A call of a repository of rows. -/
inductive RowRequest (ε : Type) where
  | shared (r : Request ε)
  | update (id : Scalar) (row : Row)
  | insert (row : Row)

/-- The answer to a call, in terms of rows or of entities. -/
inductive Answer (ι : Type) where
  | optional (x : Option ι)
  | truth (b : Bool)
  | list (xs : List ι)
  | number (n : Nat)
  | item (x : ι)
  | page (p : Page ι)
  | outcome (o : UpdateOutcome)
  | identity (id : Scalar)

namespace Answer

variable {ι κ : Type}

/-- The answer with each item replaced. -/
def map (f : ι → κ) : Answer ι → Answer κ
  | optional x => optional (x.map f)
  | truth b => truth b
  | list xs => list (xs.map f)
  | number n => number n
  | item x => item (f x)
  | page p => page (p.map f)
  | outcome o => outcome o
  | identity id => identity id

end Answer

variable {ε : Type}

/-- Answer a call in rows. -/
def Rows.answer (m : Mapping ε) (flatten : Flattener ε) : RowRequest ε → Action (Answer Row)
  | .shared (.find id fields) => return .optional (← find m id fields)
  | .shared (.exists id) => return .truth (← Rows.exists m id)
  | .shared (.findBy filter sort fields) => return .list (← findBy m filter sort fields)
  | .shared (.findDistinct distinct filter sort) => return .list (← findDistinct m distinct filter sort)
  | .shared (.count filter) => return .number (← count m filter)
  | .shared (.put e) => return .item (← put m flatten e)
  | .shared (.putAll es) => return .list (← putAll m flatten es)
  | .shared (.erase id) => return .number (← erase m id)
  | .shared (.eraseBy filter) => return .number (← eraseBy m filter)
  | .shared (.page r) => return .page (← page m r)
  | .update id row => return .outcome (← update m id row)
  | .insert row => return .identity (← insert m row)

/-- Answer a call in entities. -/
def EntityRepository.answer (r : EntityRepository ε) : Request ε → Action (Answer ε)
  | .find id fields => return .optional (← r.find id fields)
  | .exists id => return .truth (← r.exists id)
  | .findBy filter sort fields => return .list (← r.findBy filter sort fields)
  | .findDistinct distinct filter sort => return .list (← r.findDistinct distinct filter sort)
  | .count filter => return .number (← r.count filter)
  | .put e => return .item (← r.put e)
  | .putAll es => return .list (← r.putAll es)
  | .erase id => return .number (← r.erase id)
  | .eraseBy filter => return .number (← r.eraseBy filter)
  | .page request => return .page (← r.page request)

end CriteriaStore
