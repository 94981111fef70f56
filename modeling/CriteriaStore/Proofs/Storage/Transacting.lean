import CriteriaStore.Storage.Connection

/-!
# Writes inside and outside of a transaction

A write does the same to the database inside of a transaction as outside (`Mirrors.write`), with two exceptions: an
error that rolls the transaction back, and a reference left open, which is refused at once only where no transaction is
open. Unless it is rolled back a transaction stays open (`frames_write`), and when its only level ends the database is
either kept or restored (`Opened.commit`, `Opened.rollback`).
-/

namespace CriteriaStore.Storage

namespace StorageError

/-- Whether a result is an error that takes the open transaction with it. -/
def Aborts {α : Type} (x : Except StorageError α) : Prop := ∃ e, x = .error e ∧ e.rollsBack

end StorageError

namespace Connection

variable {c d : Connection} {w : Sql.Write} {saved : Database}

/-- Two connections to the same data, one of them inside of a transaction and the other one outside of any. -/
structure Mirrors (c d : Connection) : Prop where
  database : c.database = d.database
  lastNumber : c.lastNumber = d.lastNumber
  inside : c.frames ≠ []
  outside : d.frames = []

/-- A write that does not roll back keeps the open transactions. -/
theorem frames_write (hc : c.frames ≠ []) (h : ¬StorageError.Aborts (c.write w).1) :
    (c.write w).2.frames = c.frames ∧ (c.write w).2.depth = c.depth := by
  have hopen : c.frames.isEmpty = false := by simpa using hc
  unfold write at h ⊢
  cases hw : c.database.write w with
  | error e =>
    simp only [hw] at h ⊢
    have hkeep : e.rollsBack = false := by
      rw [← Bool.not_eq_true]
      exact fun hrolls => h ⟨e, rfl, hrolls⟩
    rw [hkeep]
    exact ⟨rfl, rfl⟩
  | ok r =>
    simp only [hopen, Bool.false_and]
    exact ⟨rfl, rfl⟩

/-- A write has the same result and the same effect inside of a transaction as outside. -/
theorem Mirrors.write (h : c.Mirrors d) (hinside : ¬StorageError.Aborts (c.write w).1)
    (houtside : (d.write w).1 ≠ .error .missingParent) :
    (c.write w).1 = (d.write w).1 ∧ (c.write w).2.Mirrors (d.write w).2 := by
  have hframes := (frames_write h.inside hinside).1
  have hopen : c.frames.isEmpty = false := by simpa using h.inside
  have hclosed : d.frames.isEmpty = true := by simpa using h.outside
  unfold Connection.write at hinside houtside hframes ⊢
  rw [← h.database] at houtside ⊢
  cases hw : c.database.write w with
  | error e =>
    simp only [hw] at hinside hframes ⊢
    have hkeep : e.rollsBack = false := by
      rw [← Bool.not_eq_true]
      exact fun hrolls => hinside ⟨e, rfl, hrolls⟩
    rw [hkeep]
    exact ⟨trivial, h⟩
  | ok r =>
    simp only [hw, hopen, hclosed, Bool.false_and, Bool.true_and] at hframes houtside ⊢
    cases hconsistent : r.database.isConsistent with
    | false =>
      simp only [hconsistent] at houtside
      exact absurd rfl houtside
    | true =>
      refine ⟨rfl, rfl, ?_, h.inside, h.outside⟩
      show r.number.getD c.lastNumber = r.number.getD d.lastNumber
      rw [h.lastNumber]

/-! ### One open level -/

/-- Whether one transaction is open, which returns to a database when it is undone. -/
structure Opened (c : Connection) (saved : Database) : Prop where
  frames : c.frames = [⟨none, saved⟩]
  depth : c.depth = 1

/-- Whether no transaction is open. -/
structure Closed (c : Connection) : Prop where
  frames : c.frames = []
  depth : c.depth = 0

theorem Closed.begin (h : c.Closed) :
    ∃ c', c.begin = (.ok (), c') ∧ c'.Opened c.database ∧ c'.database = c.database ∧ c'.lastNumber = c.lastNumber := by
  unfold Connection.begin
  rw [h.depth, h.frames]
  exact ⟨_, rfl, ⟨rfl, rfl⟩, rfl, rfl⟩

theorem Opened.abandon (h : c.Opened saved) : c.abandon.database = saved ∧ c.abandon.frames = [] := by
  unfold Connection.abandon
  rw [h.frames]
  exact ⟨rfl, rfl⟩

theorem Opened.rollback (h : c.Opened saved) :
    ∃ c', c.rollback = (.ok (), c') ∧ c'.Closed ∧ c'.database = saved := by
  obtain ⟨hdatabase, hframes⟩ := h.abandon
  unfold Connection.rollback
  rw [h.depth]
  simp only [h.frames, List.isEmpty_cons]
  exact ⟨_, rfl, ⟨hframes, rfl⟩, hdatabase⟩

theorem Opened.commit (h : c.Opened saved) (hc : c.database.isConsistent) :
    ∃ c', c.commit = (.ok (), c') ∧ c'.Closed ∧ c'.database = c.database := by
  unfold Connection.commit
  rw [h.depth]
  simp only [h.frames, List.isEmpty_cons, hc]
  exact ⟨_, rfl, ⟨rfl, rfl⟩, rfl⟩

theorem Opened.commit_refused (h : c.Opened saved) (hc : c.database.isConsistent = false) :
    c.commit = (.error .missingParent, c) := by
  unfold Connection.commit
  rw [h.depth]
  simp only [h.frames, List.isEmpty_cons, hc]
  rfl

end Connection

end CriteriaStore.Storage
