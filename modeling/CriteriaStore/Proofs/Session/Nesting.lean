import CriteriaStore.Proofs.Session.Work
import CriteriaStore.Storage.Sample

/-!
# Nested blocks

Transactional blocks of several databases stand inside one another, in any order and to any depth. A run comes to
points, each with the blocks around it (`Session.Reaches`): those that were opened and have not ended. Every step
leaves the open blocks as it found them (`blocks_run`), so at each point the session has exactly the blocks around it
(`Reaches.blocks_eq`).

A database is found in a transaction where the innermost block is its own. A block of another database further in hides
it, and there the database answers as if it were outside of every transaction (`resolves_of_reaches`).
-/

namespace CriteriaStore

variable {ε ρ : Type}

namespace Session

variable {s : Session} {db : Nat}

/-! ### Steps and blocks -/

theorem blocks_perform {α : Type} (s : Session) (db : Nat) (r : Runner) (a : Action α) :
    (s.perform db r a).2.blocks = s.blocks := by
  unfold perform
  dsimp only
  split <;> rfl

theorem blocks_commit (s : Session) (db : Nat) : (s.commit db).2.blocks = s.blocks := by
  unfold commit
  split <;> rfl

theorem blocks_rollback (s : Session) (db : Nat) : (s.rollback db).2.blocks = s.blocks := by
  unfold rollback
  split <;> rfl

theorem blocks_openTransaction {opened : Session} (h : s.openTransaction db = .ok opened) :
    opened.blocks = db :: s.blocks := by
  unfold openTransaction at h
  dsimp only at h
  split at h
  · cases h
  · split at h
    · cases h
      rfl
    · cases h

/-- Whatever the work does, the blocks after a transaction are those before it. -/
theorem blocks_transactional {β κ α : Type} (s : Session) (db : Nat) (work : Session → β × Session)
    (verdict : β → Except κ α) : (s.transactional db work verdict).2.blocks = s.blocks := by
  unfold transactional
  split
  · rfl
  cases s.openTransaction db with
  | error text => rfl
  | ok opened =>
    rcases hwork : work opened with ⟨given, worked⟩
    have hcommit := blocks_commit { worked with blocks := s.blocks } db
    have hrollback := blocks_rollback { worked with blocks := s.blocks } db
    simp only [hwork]
    split
    · rfl
    cases verdict given with
    | ok x =>
      rcases hend : commit { worked with blocks := s.blocks } db with ⟨_ | _, after⟩ <;>
        (rw [hend] at hcommit; exact hcommit)
    | error e =>
      rcases hend : rollback { worked with blocks := s.blocks } db with ⟨_ | _, after⟩ <;>
        (rw [hend] at hrollback; exact hrollback)

/-- A step leaves the open blocks as it found them. -/
theorem blocks_run (s : Session) (st : Step ε ρ) : (s.run st).2.blocks = s.blocks := by
  cases st with
  | entities db repository request =>
    rw [run]
    exact blocks_perform s db _ _
  | rows db access m flatten request =>
    rw [run]
    unfold callRows
    cases access with
    | runner => exact blocks_perform s db _ _
    | plain =>
      cases s.plain db with
      | error e => rfl
      | ok r => exact blocks_perform s db r _
  | transaction db steps propagate fail =>
    rw [run]
    exact blocks_transactional s db _ _
  | invalid reason => rw [run]
  | status db => rw [run]
  | hold db =>
    rw [run]
    rfl
  | release =>
    rw [run]
    rfl

/-! ### Points of a run -/

/-- The steps that are still taken after a reply; with `propagate`, none after a failure. -/
def remaining (propagate : Bool) (reply : Reply ε ρ) (rest : List (Step ε ρ)) : List (Step ε ρ) :=
  if propagate && reply.failure?.isSome then [] else rest

/-- Steps that are taken from a session, with blocks of the databases `around` it, come to a session with blocks of
the databases `path` around that one. The innermost block stands first. -/
inductive Reaches : Session → List Nat → Bool → List (Step ε ρ) → Session → List Nat → Prop
  /-- Before the first step, or at the end. -/
  | here (s : Session) (around : List Nat) (propagate : Bool) (steps : List (Step ε ρ)) :
      Reaches s around propagate steps s around
  /-- Once the first step is taken. -/
  | next {s s' : Session} {around path : List Nat} {propagate : Bool} {st : Step ε ρ} {rest : List (Step ε ρ)}
      (h : Reaches (s.run st).2 around propagate (remaining propagate (s.run st).1 rest) s' path) :
      Reaches s around propagate (st :: rest) s' path
  /-- Inside of the block that the first step opens. -/
  | inside {s s' opened : Session} {around path : List Nat} {propagate propagate' : Bool} {db : Nat}
      {fail : Option String} {steps rest : List (Step ε ρ)} (hfree : s.inTransaction db = false)
      (hopen : s.openTransaction db = .ok opened) (h : Reaches opened (db :: around) propagate' steps s' path) :
      Reaches s around propagate (.transaction db steps propagate' fail :: rest) s' path

/-- At each point of a run the open blocks of the session are the blocks around the point. -/
theorem Reaches.blocks_eq {s s' : Session} {around path : List Nat} {propagate : Bool} {steps : List (Step ε ρ)}
    (h : Reaches s around propagate steps s' path) (hs : s.blocks = around) : s'.blocks = path := by
  induction h with
  | here => exact hs
  | next h ih => exact ih ((blocks_run _ _).trans hs)
  | inside hfree hopen h ih => exact ih (by rw [blocks_openTransaction hopen, hs])

/-! ### What a database finds -/

/-- A database answers a task as inside of a transaction of its own exactly if `inside` holds: its runner is the
transaction, the plain connection is refused, and a further transaction is refused before its work is begun. -/
structure Resolves (s : Session) (db : Nat) (inside : Prop) : Prop where
  runner : s.runner db = .transaction db ↔ inside
  direct : s.runner db = .direct ↔ ¬inside
  plain : s.plain db = .error .connectionInTransaction ↔ inside
  inTransaction : s.inTransaction db ↔ inside
  nested : ∀ {β κ α : Type} (work : Session → β × Session) (verdict : β → Except κ α),
    (s.transactional db work verdict).1.result = .error .nested ↔ inside
  inert : inside → ∀ {β κ α : Type} (work : Session → β × Session) (verdict : β → Except κ α),
    s.transactional db work verdict = (⟨none, .error .nested, []⟩, s)

theorem Resolves.iff {p q : Prop} (hp : s.Resolves db p) (hq : s.Resolves db q) : p ↔ q :=
  hp.inTransaction.symm.trans hq.inTransaction

theorem Resolves.congr {p q : Prop} (hp : s.Resolves db p) (h : p ↔ q) : s.Resolves db q := propext h ▸ hp

theorem transactional_nested {β κ α : Type} (h : s.inTransaction db) (work : Session → β × Session)
    (verdict : β → Except κ α) : s.transactional db work verdict = (⟨none, .error .nested, []⟩, s) := by
  unfold transactional
  rw [if_pos h]

/-- Only a transaction inside of its own is refused as nested. -/
theorem inTransaction_of_nested {β κ α : Type} {work : Session → β × Session} {verdict : β → Except κ α}
    (h : (s.transactional db work verdict).1.result = .error .nested) : s.inTransaction db := by
  cases hin : s.inTransaction db with
  | true => rfl
  | false =>
    unfold transactional at h
    simp only [hin, Bool.false_eq_true, if_false] at h
    revert h
    cases s.openTransaction db with
    | error text => simp
    | ok opened =>
      dsimp only
      split
      · simp
      cases verdict (work opened).1 with
      | ok x => rcases commit { (work opened).2 with blocks := s.blocks } db with ⟨_ | _, after⟩ <;> simp
      | error e => rcases rollback { (work opened).2 with blocks := s.blocks } db with ⟨_ | _, after⟩ <;> simp

/-- How a database answers depends on the innermost block alone. -/
theorem resolves_inTransaction (s : Session) (db : Nat) : s.Resolves db (s.inTransaction db) where
  runner := by
    unfold Session.runner
    split <;> simp_all
  direct := by
    unfold Session.runner
    split <;> simp_all
  plain := by
    unfold Session.plain
    split <;> simp_all
  inTransaction := Iff.rfl
  nested work verdict :=
    ⟨inTransaction_of_nested, fun h => by rw [transactional_nested h]⟩
  inert h _ _ _ work verdict := transactional_nested h work verdict

/-- At every point of a run of nested blocks, over any number of databases, a database answers as inside of its
transaction exactly if the innermost block around the point is its own. So it answers as inside of its transaction
wherever a block around the point is its own, exactly at the points where no block of another database is further in. -/
theorem resolves_of_reaches {s' : Session} {path : List Nat} {propagate : Bool} {steps : List (Step ε ρ)}
    (h : Reaches s s.blocks propagate steps s' path) (db : Nat) :
    s'.Resolves db (path.head? = some db) ∧
      (s'.Resolves db (db ∈ path) ↔ (db ∈ path → path.head? = some db)) := by
  have hblocks := h.blocks_eq rfl
  have hhead : s'.Resolves db (path.head? = some db) := by
    refine (s'.resolves_inTransaction db).congr ?_
    unfold inTransaction
    rw [hblocks, beq_iff_eq]
  refine ⟨hhead, fun hmem => (hmem.iff hhead).1, fun himp => hhead.congr ⟨List.mem_of_head?, himp⟩⟩

/-- Blocks of three databases inside one another. -/
def threefold : List (Step Unit Unit) :=
  [.transaction 0 [.transaction 1 [.transaction 2 [.status 0] false none] false none] false none]

/-- In the innermost of three blocks only its own database is in a transaction. -/
theorem resolves_of_reaches_of_threefold :
    ∃ s', Reaches (start Storage.Sample.connection) (start Storage.Sample.connection).blocks false threefold s'
        [2, 1, 0] ∧
      s'.Resolves 2 True ∧ s'.Resolves 1 False ∧ s'.Resolves 0 False := by
  obtain ⟨s', h⟩ : ∃ s', Reaches (start Storage.Sample.connection) (start Storage.Sample.connection).blocks false
      threefold s' [2, 1, 0] :=
    ⟨_, .inside rfl rfl (.inside rfl rfl (.inside rfl rfl (.here _ _ _ _)))⟩
  refine ⟨s', h, ?_, ?_, ?_⟩
  · exact (resolves_of_reaches h 2).1.congr (by simp)
  · exact (resolves_of_reaches h 1).1.congr (by simp)
  · exact (resolves_of_reaches h 0).1.congr (by simp)

/-- Inside of a block of another database a database does not find its open transaction any more. Its runner is the
connection itself, the plain connection is offered, and a further transaction is not refused as nested. -/
theorem not_resolves_of_hidden :
    ∃ s', Reaches (start Storage.Sample.connection) [] false
        ([.transaction 0 [.transaction 1 [.status 0] false none] false none] : List (Step Unit Unit)) s' [1, 0] ∧
      0 ∈ [1, 0] ∧ ¬s'.Resolves 0 (0 ∈ [1, 0]) ∧
      s'.inTransaction 0 = false ∧ s'.runner 0 = .direct ∧ s'.plain 0 = .ok .direct ∧
      ∀ (work : Session → Unit × Session) (verdict : Unit → Except Unit Unit),
        (s'.transactional 0 work verdict).1.result ≠ .error .nested := by
  obtain ⟨s', h⟩ : ∃ s', Reaches (start Storage.Sample.connection) [] false
      ([.transaction 0 [.transaction 1 [.status 0] false none] false none] : List (Step Unit Unit)) s' [1, 0] :=
    ⟨_, .inside rfl rfl (.inside rfl rfl (.here _ _ _ _))⟩
  have hout : s'.inTransaction 0 = false := by
    unfold inTransaction
    rw [h.blocks_eq rfl]
    rfl
  refine ⟨s', h, by simp, fun hres => ?_, hout, ?_, ?_, fun work verdict hnested => ?_⟩
  · have := hres.inTransaction.2 (by simp)
    rw [hout] at this
    exact Bool.false_ne_true this
  · unfold Session.runner
    rw [hout]
    rfl
  · unfold Session.plain
    rw [hout]
    rfl
  · have := inTransaction_of_nested hnested
    rw [hout] at this
    exact Bool.false_ne_true this

end Session

end CriteriaStore
