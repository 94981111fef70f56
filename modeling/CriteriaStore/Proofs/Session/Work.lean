import CriteriaStore.Proofs.Repository.Resolving
import CriteriaStore.Session.Script

/-!
# Work inside a transaction

Work is a program of steps in which each step may depend on the replies so far (`Work`). It runs on a session and leaves
a trace: the session before each step, and the step. A script is work (`run_ofSteps`).

While work runs inside a transaction of a database, every step on that database finds the transaction
(`Session.Inside`): a further transaction and a plain connection are refused and change nothing (`run_nested`,
`run_plain`), and calls go to the open transaction. The transaction stays open unless an error of a call takes it along
(`Inside.work`).
-/

namespace CriteriaStore

open Storage (Database)

variable {ε ρ β : Type}

/-- Steps one after the other, each chosen by the replies to those before. -/
inductive Work (ε ρ β : Type) where
  | done (x : β)
  | step (st : Step ε ρ) (next : Reply ε ρ → Work ε ρ β)

/-- The steps of a run, each with the session in which it was taken. -/
abbrev Trace (ε ρ : Type) := List (Session × Step ε ρ)

namespace Work

/-- Carry out work; gives its value and its trace. -/
def run (s : Session) : Work ε ρ β → (β × Trace ε ρ) × Session
  | done x => ((x, []), s)
  | step st next =>
    let (reply, s') := s.run st
    let ((x, trace), s'') := (next reply).run s'
    ((x, (s, st) :: trace), s'')

/-- Work whose value is replaced. -/
def map {γ : Type} (f : β → γ) : Work ε ρ β → Work ε ρ γ
  | done x => done (f x)
  | step st next => step st fun reply => map f (next reply)

/-- The steps of a script as work; with `propagate`, only up to the first failing one. -/
def ofSteps (propagate : Bool) : List (Step ε ρ) → Work ε ρ (Progress ε ρ)
  | [] => done ⟨[], none⟩
  | st :: rest => step st fun reply =>
    match if propagate then reply.failure? else none with
    | some e => done ⟨[reply], some e⟩
    | none => (ofSteps propagate rest).map fun p => ⟨reply :: p.replies, p.failure⟩

theorem run_step (s : Session) (st : Step ε ρ) (next : Reply ε ρ → Work ε ρ β) :
    (step st next).run s = ((((next (s.run st).1).run (s.run st).2).1.1,
      (s, st) :: ((next (s.run st).1).run (s.run st).2).1.2), ((next (s.run st).1).run (s.run st).2).2) := rfl

theorem run_map {γ : Type} (f : β → γ) (w : Work ε ρ β) (s : Session) :
    (w.map f).run s = ((f (w.run s).1.1, (w.run s).1.2), (w.run s).2) := by
  induction w generalizing s with
  | done x => rfl
  | step st next ih =>
    unfold map
    rw [run_step, run_step, ih]

/-- A script runs as the work that it is. -/
theorem run_ofSteps (propagate : Bool) (steps : List (Step ε ρ)) (s : Session) :
    (((ofSteps propagate steps).run s).1.1, ((ofSteps propagate steps).run s).2) = s.runAll propagate steps := by
  induction steps generalizing s with
  | nil => simp [ofSteps, run, Session.runAll]
  | cons st rest ih =>
    unfold ofSteps
    rw [run_step, Session.runAll]
    cases hfailure : if propagate then (s.run st).1.failure? else none with
    | some e => simp only [hfailure, run]
    | none =>
      simp only [hfailure, run_map]
      rw [← ih]

end Work

/-! ### Steps on one database -/

namespace Step

/-- Whether a step is about one database. -/
def IsOn (db : Nat) : Step ε ρ → Prop
  | entities db' _ _ | rows db' _ _ _ _ | hold db' | transaction db' _ _ _ => db' = db
  | _ => True

/-- Whether a step is a call of a repository on the runner that its database offers. -/
def isCall : Step ε ρ → Bool
  | entities _ _ _ | rows _ .runner _ _ _ => true
  | _ => false

end Step

/-- Whether every step of work is about one database, whatever the replies are. -/
def Work.IsOn (db : Nat) : Work ε ρ β → Prop
  | done _ => True
  | step st next => st.IsOn db ∧ ∀ reply, (next reply).IsOn db

/-- The error of the repository in a reply. -/
def Reply.error? : Reply ε ρ → Option RepositoryError
  | entities (.error e) _ | rows (.error e) _ => some e
  | _ => none

namespace Trace

/-- The replies that the steps got. -/
def replies (t : Trace ε ρ) : List (Reply ε ρ) := t.map fun p => (p.1.run p.2).1

/-- The part of a trace that consists of calls. -/
def calls (t : Trace ε ρ) : Trace ε ρ := t.filter fun p => p.2.isCall

/-- The steps alone. -/
def steps (t : Trace ε ρ) : List (Step ε ρ) := t.map Prod.snd

end Trace

namespace Session

variable {s d : Session} {db : Nat}

/-- Inside of a transaction a further one is refused, and nothing changes. -/
theorem run_nested (h : s.inTransaction db) (steps : List (Step ε ρ)) (propagate : Bool) (fail : Option String) :
    s.run (.transaction db steps propagate fail) = (.transaction (.error .nested) [] [], s) := by
  rw [run]
  unfold transactional
  rw [if_pos h]
  rfl

/-- Inside of a transaction the plain connection is refused, and nothing changes. -/
theorem run_plain (h : s.inTransaction db) (m : Mapping ε) (flatten : Flattener ε) (r : RowRequest ε) :
    s.run (.rows db .plain m flatten r : Step ε ρ) = (.rows (.error .connectionInTransaction) [], s) := by
  rw [run]
  unfold callRows plain
  rw [if_pos h]

/-! ### Calls -/

/-- The runner that a database offers serves it, inside of its transaction as well as outside. -/
theorem perform_runner (h : s.inTransaction db ∨ (s.stores db).busy = false) {α : Type} (a : Action α) :
    s.perform db (s.runner db) a =
      (((a.runOn (s.stores db).connection).1, (a.runOn (s.stores db).connection).2.events),
        s.setStore db { s.stores db with connection := (a.runOn (s.stores db).connection).2.connection }) := by
  have hserved : ((s.stores db).busy && !(s.runner db).isTransactional) = false := by
    unfold runner
    rcases h with h | h
    · simp [h, Runner.isTransactional]
    · simp [h]
  simp only [perform, hserved]
  rfl

theorem run_entities (h : s.inTransaction db ∨ (s.stores db).busy = false) (repository : EntityRepository ε)
    (request : Request ε) :
    s.run (.entities db repository request : Step ε ρ) =
      (.entities ((repository.answer request).runOn (s.stores db).connection).1
          ((repository.answer request).runOn (s.stores db).connection).2.events,
        s.setStore db { s.stores db with
          connection := ((repository.answer request).runOn (s.stores db).connection).2.connection }) := by
  rw [run]
  unfold callEntities
  rw [perform_runner h]

theorem run_rows (h : s.inTransaction db ∨ (s.stores db).busy = false) (m : Mapping ε) (flatten : Flattener ε)
    (request : RowRequest ε) :
    s.run (.rows db .runner m flatten request : Step ε ρ) =
      (.rows ((Rows.answer m flatten request).runOn (s.stores db).connection).1
          ((Rows.answer m flatten request).runOn (s.stores db).connection).2.events,
        s.setStore db { s.stores db with
          connection := ((Rows.answer m flatten request).runOn (s.stores db).connection).2.connection }) := by
  rw [run]
  simp only [callRows, perform_runner h]

/-- A call runs an action of its repository on the connection, inside of a transaction as well as outside. -/
theorem run_call {st : Step ε ρ} (hcall : st.isCall) (hon : st.IsOn db) :
    ∃ (α : Type) (a : Action α) (reply : Except RepositoryError α → List Event → Reply ε ρ),
      Action.Program True (fun _ => True) a ∧ (∀ e events, (reply (.error e) events).error? = some e) ∧
      ∀ s : Session, s.inTransaction db ∨ (s.stores db).busy = false →
        s.run st = (reply (a.runOn (s.stores db).connection).1 (a.runOn (s.stores db).connection).2.events,
          s.setStore db { s.stores db with connection := (a.runOn (s.stores db).connection).2.connection }) := by
  cases st with
  | entities db' repository request =>
    obtain rfl : db' = db := hon
    exact ⟨_, repository.answer request, .entities, (repository.answer_upfront request).toProgram, fun _ _ => rfl,
      fun s h => run_entities h repository request⟩
  | rows db' access m flatten request =>
    obtain rfl : db' = db := hon
    cases access with
    | plain => simp [Step.isCall] at hcall
    | runner =>
      exact ⟨_, Rows.answer m flatten request, .rows, (Rows.answer_upfront m flatten request).toProgram, fun _ _ => rfl,
        fun s h => run_rows h m flatten request⟩
  | _ => simp [Step.isCall] at hcall

/-! ### Inside of a transaction -/

/-- Whether the innermost block is a transaction of a database, which returns to a saved state when it is undone. -/
structure Inside (s : Session) (db : Nat) (saved : Database) (outer : List Nat) : Prop where
  blocks : s.blocks = db :: outer
  opened : (s.stores db).connection.Opened saved

theorem inTransaction_of_blocks {outer : List Nat} (h : s.blocks = db :: outer) : s.inTransaction db := by
  unfold inTransaction
  rw [h]
  simp

/-- What is not a call leaves the blocks and the database as they are. -/
theorem run_other {outer : List Nat} (h : s.blocks = db :: outer) {st : Step ε ρ} (hcall : st.isCall = false)
    (hon : st.IsOn db) : (s.run st).2.blocks = s.blocks ∧ (s.run st).2.stores db = s.stores db := by
  have hin := inTransaction_of_blocks h
  cases st with
  | entities db' repository request => simp [Step.isCall] at hcall
  | rows db' access m flatten request =>
    obtain rfl : db' = db := hon
    cases access with
    | plain =>
      rw [run_plain hin]
      exact ⟨rfl, rfl⟩
    | runner => simp [Step.isCall] at hcall
  | invalid reason =>
    rw [run]
    exact ⟨rfl, rfl⟩
  | status db' =>
    rw [run]
    exact ⟨rfl, rfl⟩
  | hold db' =>
    rw [run]
    exact ⟨rfl, rfl⟩
  | release =>
    rw [run]
    refine ⟨rfl, ?_⟩
    have hopen : db ∈ s.blocks := by
      rw [h]
      exact List.mem_cons_self
    simp [release, hopen]
  | transaction db' steps propagate fail =>
    obtain rfl : db' = db := hon
    rw [run_nested hin]
    exact ⟨rfl, rfl⟩

theorem run_blocks {outer : List Nat} (h : s.blocks = db :: outer) {st : Step ε ρ} (hon : st.IsOn db) :
    (s.run st).2.blocks = db :: outer := by
  cases hcall : st.isCall with
  | true =>
    obtain ⟨α, a, reply, -, -, hrun⟩ := run_call (ε := ε) (ρ := ρ) hcall hon
    rw [hrun s (.inl (inTransaction_of_blocks h))]
    exact h
  | false => exact (run_other h hcall hon).1.trans h

@[simp] theorem stores_setStore (s : Session) (db : Nat) (st : Store) : (s.setStore db st).stores db = st := by
  unfold setStore
  simp

/-- Every step keeps the transaction open, unless an error takes it along. -/
theorem Inside.run {saved : Database} {outer : List Nat} (h : s.Inside db saved outer) {st : Step ε ρ}
    (hon : st.IsOn db) (hkept : ∀ e, (s.run st).1.error? = some e → ¬e.Aborts) :
    (s.run st).2.Inside db saved outer := by
  refine ⟨run_blocks h.blocks hon, ?_⟩
  cases hcall : st.isCall with
  | true =>
    obtain ⟨α, a, reply, hprogram, herror, hrun⟩ := run_call (ε := ε) (ρ := ρ) hcall hon
    rw [hrun s (.inl (inTransaction_of_blocks h.blocks))] at hkept ⊢
    rw [stores_setStore, Action.runOn_eq_exec]
    have hopen : (s.stores db).connection.frames ≠ [] := by
      rw [h.opened.frames]
      simp
    obtain ⟨hframes, hdepth⟩ := hprogram.frames_eq (j := { connection := (s.stores db).connection }) hopen
      fun e he => hkept e (by rw [Action.runOn_eq_exec, he, herror])
    exact ⟨hframes.trans h.opened.frames, hdepth.trans h.opened.depth⟩
  | false =>
    rw [(run_other h.blocks hcall hon).2]
    exact h.opened

theorem blocks_work {outer : List Nat} (h : s.blocks = db :: outer) {w : Work ε ρ β} (hw : w.IsOn db) :
    (w.run s).2.blocks = db :: outer ∧ ∀ p ∈ (w.run s).1.2, p.1.inTransaction db ∧ p.2.IsOn db := by
  induction w generalizing s with
  | done x => exact ⟨h, by simp [Work.run]⟩
  | step st next ih =>
    obtain ⟨hblocks, htrace⟩ := ih _ (run_blocks h hw.1) (hw.2 (s.run st).1)
    rw [Work.run_step]
    refine ⟨hblocks, fun p hp => ?_⟩
    rcases List.mem_cons.1 hp with rfl | hp
    · exact ⟨inTransaction_of_blocks h, hw.1⟩
    · exact htrace p hp

theorem Inside.work {saved : Database} {outer : List Nat} (h : s.Inside db saved outer) {w : Work ε ρ β}
    (hw : w.IsOn db)
    (hkept : ∀ reply ∈ Trace.replies (w.run s).1.2, ∀ e, reply.error? = some e → ¬e.Aborts) :
    (w.run s).2.Inside db saved outer := by
  induction w generalizing s with
  | done x => exact h
  | step st next ih =>
    rw [Work.run_step] at hkept ⊢
    exact ih _ (h.run hw.1 (hkept _ List.mem_cons_self)) (hw.2 _) fun reply hr =>
      hkept reply (List.mem_cons_of_mem _ hr)

end Session

end CriteriaStore
