import CriteriaStore.Criteria.Operator
/-!
# Criteria errors

What can be wrong with criteria, a mapping or an entity before storage is asked anything.
-/

namespace CriteriaStore

/-- Why an entity could not be flattened. -/
inductive FlatteningFailure where
  /-- The serializer refused the entity, with this text. -/
  | serializer (text : String)
  /-- The serialized entity has no value at a mapped property. -/
  | notExposed (property : String)
  deriving Repr, DecidableEq

/-- The wording of a flattening failure. -/
def FlatteningFailure.message : FlatteningFailure → String
  | serializer text => text
  | notExposed property => "property `" ++ property ++ "` is not exposed"

/-- What can be wrong with criteria, a mapping or an entity. -/
inductive CriteriaError where
  | unmappedProperty (property : String)
  /-- No property is mapped to the identity column of the table. -/
  | unmappedIdentity (table identity : String)
  | invalidPage (number size : UInt64)
  /-- The operator as applied, that is the complement for a negated clause. -/
  | operandMismatch (operator : Operator) (property : String)
  | unknownOperator (name : String)
  | unflattenable (table : String) (reason : FlatteningFailure)
  deriving Repr, DecidableEq

/-- The wording of a criteria error. -/
def CriteriaError.message : CriteriaError → String
  | unmappedProperty property => "property `" ++ property ++ "` is not mapped to a column"
  | unmappedIdentity table identity =>
    "identity column `" ++ identity ++ "` of `" ++ table ++ "` has no property in the mapping"
  | invalidPage number size =>
    "invalid page request: page " ++ toString number ++ " with size " ++ toString size
  | operandMismatch operator property =>
    "operator `" ++ operator.name ++ "` on `" ++ property ++ "` was given an operand of the wrong shape"
  | unknownOperator name => "unknown operator `" ++ name ++ "`"
  | unflattenable table reason => "cannot flatten `" ++ table ++ "` entity: " ++ reason.message

end CriteriaStore
