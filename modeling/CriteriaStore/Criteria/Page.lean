import CriteriaStore.Criteria.FieldSet
import CriteriaStore.Criteria.Filter
import CriteriaStore.Criteria.SortOrder
/-!
# Pages

A page request asks for one stretch of a result; a page is that stretch together with the request and the
size of the whole result.

* Numbers are unsigned words, and the arithmetic of a request is checked word by word
  (`PageRequest.lastRow?`); an accepted request ends within the positive signed words.
* `Page.of` and `Page.single` count pages by rounding up.
-/

namespace CriteriaStore

/-- Word subtraction that fails below zero. -/
def checkedSub? (a b : UInt64) : Option UInt64 := if b ≤ a then some (a - b) else none

/-- Word multiplication that fails on overflow. -/
def checkedMul? (a b : UInt64) : Option UInt64 := if a.toNat * b.toNat < UInt64.size then some (a * b) else none

/-- Word addition that fails on overflow. -/
def checkedAdd? (a b : UInt64) : Option UInt64 := if a.toNat + b.toNat < UInt64.size then some (a + b) else none

/-- The quotient of two words, rounded up. -/
def divCeil (a b : UInt64) : UInt64 := if a % b = 0 then a / b else a / b + 1

/-- The largest row number a request may end at: the largest positive signed word. -/
def maxRow : UInt64 := 9223372036854775807

namespace PageRequest

/-- The number of the last row that a page of full length has, if it can be computed in words. -/
def lastRow? (number size : UInt64) : Option UInt64 := do
  let skippedPages ← checkedSub? number 1
  if size = 0 then none
  else
    let skippedRows ← checkedMul? skippedPages size
    checkedAdd? skippedRows size

/-- Whether a page number and size may be asked for. -/
def accepts (number size : UInt64) : Bool :=
  match lastRow? number size with
  | some last => decide (last ≤ maxRow)
  | none => false

end PageRequest

/-- A request for one page. Pages are numbered from one. -/
structure PageRequest where
  number : UInt64
  size : UInt64
  sort : Option SortOrder := none
  filter : Option Filter := none
  fields : Option FieldSet := none
  distinct : Option FieldSet := none
  accepted : PageRequest.accepts number size = true

namespace PageRequest

/-- A bare request for a page, if it can be asked for. -/
def create (number size : UInt64) : Except CriteriaError PageRequest :=
  if h : accepts number size = true then .ok { number, size, accepted := h }
  else .error (.invalidPage number size)

/-- A part that a request may have beside its page. -/
inductive Part where
  | sort (s : SortOrder)
  | filter (f : Filter)
  | fields (s : FieldSet)
  | distinct (s : FieldSet)

/-- The request for the same page with a part set. -/
def set (r : PageRequest) : Part → PageRequest
  | .sort s => { r with sort := some s }
  | .filter f => { r with filter := some f }
  | .fields s => { r with fields := some s }
  | .distinct s => { r with distinct := some s }

instance : BEq PageRequest where
  beq a b := a.number == b.number && a.size == b.size && a.sort == b.sort && a.filter == b.filter
    && a.fields == b.fields && a.distinct == b.distinct

/-- The rows before the page. -/
def offset (r : PageRequest) : UInt64 := (r.number - 1) * r.size

end PageRequest

/-- One page of a result, with the request that produced it. -/
structure Page (α : Type) where
  content : List α
  total : UInt64
  number : UInt64
  size : UInt64
  pages : UInt64
  sort : Option SortOrder
  filter : Option Filter
  fields : Option FieldSet
  distinct : Option FieldSet
  deriving BEq

namespace Page

variable {α β : Type}

/-- The page of a request. -/
def of (content : List α) (total : UInt64) (r : PageRequest) : Page α where
  content := content
  total := total
  number := r.number
  size := r.size
  pages := divCeil total r.size
  sort := r.sort
  filter := r.filter
  fields := r.fields
  distinct := r.distinct

/-- The whole result as one page, whose size is the number of rows but at least one. -/
def single (content : List α) (total : UInt64) : Page α :=
  let size := max (UInt64.ofNat content.length) 1
  { content, total, number := 1, size, pages := divCeil total size,
    sort := none, filter := none, fields := none, distinct := none }

/-- The page with its content as a whole replaced. -/
def mapContent (f : List α → List β) (p : Page α) : Page β where
  content := f p.content
  total := p.total
  number := p.number
  size := p.size
  pages := p.pages
  sort := p.sort
  filter := p.filter
  fields := p.fields
  distinct := p.distinct

/-- The page with each item replaced. -/
def map (f : α → β) (p : Page α) : Page β := p.mapContent (List.map f)

/-- Whether the page has no rows. -/
def isEmpty (p : Page α) : Bool := p.content.isEmpty

end Page

end CriteriaStore
