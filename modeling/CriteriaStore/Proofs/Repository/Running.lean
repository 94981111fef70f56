import CriteriaStore.Repository.Action

/-!
# Running actions

What each step of an action does to the journal. A sequence runs its first step and goes on with the value, or
stops with the error (`exec_bind`).

`Action.Gives` leaves the events out: the action ends with a result and a connection, whatever was reported before.
-/

namespace CriteriaStore.Action

open Storage (Connection)

variable {α β : Type}

/-- Run an action on a journal. -/
def exec (a : Action α) (j : Journal) : Except RepositoryError α × Journal := (ExceptT.run a).run j

theorem runOn_eq_exec (a : Action α) (c : Connection) : a.runOn c = a.exec { connection := c } := rfl

theorem exec_bind (a : Action α) (k : α → Action β) (j : Journal) :
    exec (a >>= k) j = match exec a j with
      | (.ok x, j') => exec (k x) j'
      | (.error e, j') => (.error e, j') := by
  show (ExceptT.run (a >>= k)).run j = match (ExceptT.run a).run j with
    | (.ok x, j') => (ExceptT.run (k x)).run j'
    | (.error e, j') => (.error e, j')
  rw [ExceptT.run_bind, StateT.run_bind]
  generalize (ExceptT.run a).run j = r
  obtain ⟨x, j'⟩ := r
  cases x <;> rfl

theorem exec_bind_ok {a : Action α} {k : α → Action β} {j j' : Journal} {x : α} (h : exec a j = (.ok x, j')) :
    exec (a >>= k) j = exec (k x) j' := by
  rw [exec_bind, h]

theorem exec_bind_error {a : Action α} {k : α → Action β} {j j' : Journal} {e : RepositoryError}
    (h : exec a j = (.error e, j')) : exec (a >>= k) j = (.error e, j') := by
  rw [exec_bind, h]

theorem exec_bind_fst_error {a : Action α} {k : α → Action β} {j : Journal} {e : RepositoryError}
    (h : (exec a j).1 = .error e) : (exec (a >>= k) j).1 = .error e := by
  rw [exec_bind_error (Prod.ext h rfl)]

/-- A sequence that fails does so in its first step or in the rest. -/
theorem exec_bind_eq_error {a : Action α} {k : α → Action β} {j j' : Journal} {e : RepositoryError}
    (h : exec (a >>= k) j = (.error e, j')) :
    exec a j = (.error e, j') ∨ ∃ x j₁, exec a j = (.ok x, j₁) ∧ exec (k x) j₁ = (.error e, j') := by
  rw [exec_bind] at h
  rcases hexec : exec a j with ⟨x | x, j₁⟩
  · rw [hexec] at h
    cases h
    exact .inl rfl
  · rw [hexec] at h
    exact .inr ⟨x, j₁, rfl, h⟩

@[simp] theorem exec_lift (r : Except RepositoryError α) (j : Journal) : exec (liftM r : Action α) j = (r, j) := rfl

theorem exec_resolve_ok (x : α) (j : Journal) : exec (resolve (.ok x)) j = (.ok x, j) := rfl

theorem exec_get (j : Journal) : exec get j = (.ok j, j) := rfl

theorem exec_rows (q : Sql.Select) (j : Journal) :
    exec (rows q) j = match j.connection.database.rows q with
      | .ok rs => (.ok rs, j)
      | .error e => (.error (.storage .query e), j) := by
  unfold rows
  rw [exec_bind_ok (exec_get j)]
  cases j.connection.database.rows q <;> rfl

theorem exec_count (table column : String) (condition : Option Sql.Where) (j : Journal) :
    exec (count table column condition) j = match j.connection.database.count table column condition with
      | .ok n => (.ok n, j)
      | .error e => (.error (.storage .query e), j) := by
  unfold count
  rw [exec_bind_ok (exec_get j)]
  cases j.connection.database.count table column condition <;> rfl

theorem exec_write (w : Sql.Write) (j : Journal) :
    exec (write w) j = match j.connection.write w with
      | (.ok n, c) => (.ok n, { j with connection := c })
      | (.error e, c) => (.error (.storage .execution e), { j with connection := c }) := by
  unfold write
  rw [exec_bind_ok (exec_get j)]
  generalize j.connection.write w = r
  obtain ⟨x, c⟩ := r
  cases x <;> rfl

theorem exec_write_error {w : Sql.Write} {j : Journal} {e : Storage.StorageError}
    (h : (j.connection.write w).1 = .error e) : (exec (write w) j).1 = .error (.storage .execution e) := by
  rw [exec_write]
  rcases hwrite : j.connection.write w with ⟨x, c⟩
  rw [hwrite] at h
  cases h
  rfl

/-! ### Results without events -/

/-- Whatever was reported before, an action on a connection ends with a result and leaves a connection. -/
def Gives (a : Action α) (c : Connection) (x : Except RepositoryError α) (c' : Connection) : Prop :=
  ∀ events, ∃ events', exec a ⟨c, events⟩ = (x, ⟨c', events'⟩)

theorem Gives.runOn {a : Action α} {c c' : Connection} {x : Except RepositoryError α} (h : Gives a c x c') :
    ∃ events, a.runOn c = (x, ⟨c', events⟩) := h []

theorem gives_pure (x : α) (c : Connection) : Gives (pure x) c (.ok x) c := fun events => ⟨events, rfl⟩

theorem gives_lift (r : Except RepositoryError α) (c : Connection) : Gives (liftM r : Action α) c r c :=
  fun events => ⟨events, rfl⟩

theorem gives_resolve (x : α) (c : Connection) : Gives (resolve (.ok x)) c (.ok x) c := fun events => ⟨events, rfl⟩

theorem gives_built (table : String) (s : Sql.Statement) (b : Bindings) (c : Connection) :
    Gives (built table s b) c (.ok ()) c := fun _ => ⟨_, rfl⟩

theorem Gives.bind {a : Action α} {k : α → Action β} {c c' c'' : Connection} {x : α} {y : Except RepositoryError β}
    (ha : Gives a c (.ok x) c') (hk : Gives (k x) c' y c'') : Gives (a >>= k) c y c'' := by
  intro events
  obtain ⟨events', he⟩ := ha events
  rw [exec_bind_ok he]
  exact hk events'

theorem Gives.bind_error {a : Action α} {k : α → Action β} {c c' : Connection} {e : RepositoryError}
    (ha : Gives a c (.error e) c') : Gives (a >>= k) c (.error e) c' := by
  intro events
  obtain ⟨events', he⟩ := ha events
  exact ⟨events', exec_bind_error he⟩

theorem gives_rows {q : Sql.Select} {c : Connection} {rs : List Row} (h : c.database.rows q = .ok rs) :
    Gives (rows q) c (.ok rs) c := by
  intro events
  exact ⟨events, by rw [exec_rows, h]⟩

theorem gives_count {table column : String} {condition : Option Sql.Where} {c : Connection} {n : Nat}
    (h : c.database.count table column condition = .ok n) : Gives (count table column condition) c (.ok n) c := by
  intro events
  exact ⟨events, by rw [exec_count, h]⟩

/-- A write gives its result, with the error as one of the execution. -/
theorem gives_write_result (w : Sql.Write) (c : Connection) :
    Gives (write w) c ((c.write w).1.mapError (.storage .execution)) (c.write w).2 := by
  intro events
  refine ⟨events, ?_⟩
  rw [exec_write]
  rcases c.write w with ⟨x | x, c'⟩ <;> rfl

theorem gives_write {w : Sql.Write} {c c' : Connection} {n : Nat} (h : c.write w = (.ok n, c')) :
    Gives (write w) c (.ok n) c' := by
  have := gives_write_result w c
  rwa [h] at this

end CriteriaStore.Action
