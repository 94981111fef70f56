import CriteriaStore.Criteria.Page
import CriteriaStore.Repository.Reading
/-!
# Pages of rows

A page takes two statements, one that counts and one that selects. Both are compiled before either runs, with
one list of bound values.
-/

namespace CriteriaStore.Rows

variable {ε : Type}

/-- The projection of a page: different rows if some are asked for, else the fields. -/
def pageProjection (m : Mapping ε) (r : PageRequest) : Except CriteriaError Sql.Projection :=
  match r.distinct with
  | some distinct =>
    if distinct.isEmpty then Sql.Projection.ofFields m.properties r.fields
    else Sql.Projection.ofDistinct m.properties distinct
  | none => Sql.Projection.ofFields m.properties r.fields

/-- The page of a request; without request, all rows as one page. -/
def page (m : Mapping ε) : Option PageRequest → Action (Page Row)
  | none => do
    let rows ← findBy m none none none
    let total ← count m none
    return Page.single rows (UInt64.ofNat total)
  | some r => do
    let projection ← Action.resolve (pageProjection m r)
    let (condition, b) ← Action.resolve (m.condition r.filter {})
    let (q, b) ← Action.resolve (m.selection projection r.filter r.sort b)
    let q := { q with limit := some r.size, offset := some r.offset }
    Action.built m.table (.count m.table m.identity condition) b
    Action.built m.table (.select q) b
    let total ← Action.count m.table m.identity condition
    let rows ← Action.rows q
    return Page.of rows (UInt64.ofNat total) r

end CriteriaStore.Rows
