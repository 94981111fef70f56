/-!
# Sort orders

A list of properties, each with a direction. Setting the direction of a property that is present keeps its
place in the list.
-/

namespace CriteriaStore

/-- Smallest first or largest first. -/
inductive Direction where
  | asc
  | desc
  deriving Repr, DecidableEq, Inhabited

namespace Direction

/-- The other direction. -/
def reverse : Direction → Direction
  | asc => desc
  | desc => asc

/-- The written name. -/
def name : Direction → String
  | asc => "asc"
  | desc => "desc"

/-- The direction with a written name. -/
def ofName? (s : String) : Option Direction :=
  if s = "asc" then some asc else if s = "desc" then some desc else none

end Direction

/-- A property and its direction. -/
structure SortKey where
  property : String
  direction : Direction
  deriving Repr, DecidableEq, Inhabited

/-- Properties with their directions, the most significant first. -/
structure SortOrder where
  keys : List SortKey := []
  deriving Repr, DecidableEq, Inhabited

namespace SortOrder

/-- A key list with the direction of one property set: in place where it stands first, at the end when
it is absent. -/
def setKey (property : String) (direction : Direction) : List SortKey → List SortKey
  | [] => [⟨property, direction⟩]
  | k :: rest =>
    if k.property = property then { k with direction } :: rest
    else k :: setKey property direction rest

/-- Set the direction of a property. -/
def set (s : SortOrder) (property : String) (direction : Direction) : SortOrder :=
  ⟨setKey property direction s.keys⟩

/-- One direction for several properties, in the given order. -/
def uniform (properties : List String) (direction : Direction) : SortOrder :=
  properties.foldl (fun s p => s.set p direction) {}

/-- The direction of a property. -/
def directionOf? (s : SortOrder) (property : String) : Option Direction :=
  (s.keys.find? fun k => k.property = property).map SortKey.direction

/-- Whether nothing is sorted. -/
def isEmpty (s : SortOrder) : Bool := s.keys.isEmpty

end SortOrder

end CriteriaStore
