/-!
# Truth with unknowns

The three truth values of conditions. A comparison with nothing is unknown, and a record is selected only by a
condition that is true.
-/

namespace CriteriaStore.Storage

/-- The value of a condition. -/
inductive Truth where
  | no
  | unknown
  | yes
  deriving Repr, DecidableEq

namespace Truth

/-- The value of a condition that is decided. -/
def ofBool (b : Bool) : Truth := if b then yes else no

/-- Negation; the negation of unknown is unknown. -/
def not : Truth → Truth
  | no => yes
  | unknown => unknown
  | yes => no

/-- Conjunction: no wins over unknown, unknown over yes. -/
def and : Truth → Truth → Truth
  | no, _ => no
  | _, no => no
  | yes, b => b
  | unknown, _ => unknown

/-- Disjunction: yes wins over unknown, unknown over no. -/
def or : Truth → Truth → Truth
  | yes, _ => yes
  | _, yes => yes
  | no, b => b
  | unknown, _ => unknown

/-- The conjunction of a list. -/
def all (ts : List Truth) : Truth := ts.foldr and yes

/-- The disjunction of a list. -/
def any (ts : List Truth) : Truth := ts.foldr or no

@[simp] theorem not_not (a : Truth) : a.not.not = a := by cases a <;> rfl

@[simp] theorem and_eq_yes {a b : Truth} : a.and b = yes ↔ a = yes ∧ b = yes := by
  cases a <;> cases b <;> simp [and]

@[simp] theorem or_eq_yes {a b : Truth} : a.or b = yes ↔ a = yes ∨ b = yes := by
  cases a <;> cases b <;> simp [or]

theorem all_eq_yes {ts : List Truth} : all ts = yes ↔ ∀ t ∈ ts, t = yes := by
  induction ts with
  | nil => simp [all]
  | cons t rest ih =>
    have : all (t :: rest) = t.and (all rest) := rfl
    simp [this, ih]

theorem any_eq_yes {ts : List Truth} : any ts = yes ↔ yes ∈ ts := by
  induction ts with
  | nil => simp [any]
  | cons t rest ih =>
    have : any (t :: rest) = t.or (any rest) := rfl
    rw [this, or_eq_yes, ih, List.mem_cons, eq_comm]

end Truth

end CriteriaStore.Storage
