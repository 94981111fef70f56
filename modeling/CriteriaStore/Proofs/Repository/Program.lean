import CriteriaStore.Proofs.Repository.Running
import CriteriaStore.Proofs.Storage.Transacting
import CriteriaStore.Repository.Request

/-!
# What actions are made of

Every action of a repository is a sequence of a few kinds of steps: report an event, read rows or a number from
storage, carry out a write, or fail (`Action.Program`). The next step may depend on the value of the one before. What
one step keeps is therefore kept by the whole action, by one induction for each property.

What every write keeps of a connection a program keeps (`Program.keeps`), and one that may not write leaves the connection
as it is (`Program.connection_eq`). The errors of a program are those it may raise, and those of storage
(`Program.raises`). Inside of a transaction a program does the same as outside (`Program.mirrors`) and leaves the
transaction open (`Program.frames_eq`), if no error says otherwise.
-/

namespace CriteriaStore

open Storage (Connection)

variable {ε : Type}

namespace RepositoryError

/-- Whether the error takes the open transaction with it. -/
def Aborts : RepositoryError → Prop
  | storage _ e => e.rollsBack
  | _ => False

/-- Whether the error is the refusal of a reference that is left open. -/
def IsOpenReference : RepositoryError → Prop
  | storage _ .missingParent => True
  | _ => False

end RepositoryError

/-- Two journals with the same events, on connections to the same data inside and outside of a transaction. -/
structure Journal.Mirrors (j k : Journal) : Prop where
  events : j.events = k.events
  connection : j.connection.Mirrors k.connection

/-- Actions made of reports, reads, writes if they are allowed, and the failures that are allowed. -/
inductive Action.Program (mayWrite : Prop) (mayRaise : RepositoryError → Prop) : {α : Type} → Action α → Prop
  | value {α : Type} (x : α) : Program mayWrite mayRaise (pure x : Action α)
  | failure {α : Type} {e : RepositoryError} (h : mayRaise e) : Program mayWrite mayRaise (throw e : Action α)
  | report (e : Event) : Program mayWrite mayRaise (Action.report e)
  | rows (q : Sql.Select) : Program mayWrite mayRaise (Action.rows q)
  | count (table column : String) (condition : Option Sql.Where) :
      Program mayWrite mayRaise (Action.count table column condition)
  | lastNumber : Program mayWrite mayRaise Action.lastNumber
  | write (h : mayWrite) (w : Sql.Write) : Program mayWrite mayRaise (Action.write w)
  | bind {α β : Type} {a : Action α} {k : α → Action β} (ha : Program mayWrite mayRaise a)
      (hk : ∀ x, Program mayWrite mayRaise (k x)) : Program mayWrite mayRaise (a >>= k)

namespace Action.Program

variable {α β : Type} {mayWrite : Prop} {mayRaise : RepositoryError → Prop} {a : Action α}

/-! ### What programs keep -/

/-- What every write keeps of a connection, a program keeps. -/
theorem keeps (h : Program mayWrite mayRaise a) {p : Connection → Prop}
    (hwrite : mayWrite → ∀ c w, p c → p (c.write w).2) {j : Journal} (hj : p j.connection) :
    p (exec a j).2.connection := by
  induction h generalizing j with
  | value x => exact hj
  | failure h => exact hj
  | report e => exact hj
  | rows q =>
    rw [exec_rows]
    cases j.connection.database.rows q <;> exact hj
  | count table column condition =>
    rw [exec_count]
    cases j.connection.database.count table column condition <;> exact hj
  | lastNumber => exact hj
  | write h w =>
    have hnext := hwrite h j.connection w hj
    rw [exec_write]
    rcases hresult : j.connection.write w with ⟨x, c⟩
    rw [hresult] at hnext
    cases x <;> exact hnext
  | @bind α β a k ha hk iha ihk =>
    have hfirst := iha hj
    rw [exec_bind]
    rcases hexec : exec a j with ⟨x | x, j'⟩
    · rw [hexec] at hfirst
      exact hfirst
    · rw [hexec] at hfirst
      exact ihk x hfirst

/-- A program that may not write leaves the connection as it is. -/
theorem connection_eq (h : Program False mayRaise a) (j : Journal) : (exec a j).2.connection = j.connection :=
  h.keeps (p := fun c => c = j.connection) False.elim rfl

/-- What goes wrong in a program is one of the failures that are allowed, or a refusal by storage. -/
theorem raises (h : Program mayWrite mayRaise a) {j j' : Journal} {e : RepositoryError}
    (he : exec a j = (.error e, j')) : mayRaise e ∨ ∃ phase s, e = .storage phase s := by
  induction h generalizing j with
  | value x => cases he
  | failure h =>
    cases he
    exact .inl h
  | report e => cases he
  | rows q =>
    rw [exec_rows] at he
    cases hrows : j.connection.database.rows q with
    | ok rs => simp [hrows] at he
    | error s =>
      rw [hrows] at he
      cases he
      exact .inr ⟨_, _, rfl⟩
  | count table column condition =>
    rw [exec_count] at he
    cases hcount : j.connection.database.count table column condition with
    | ok n => simp [hcount] at he
    | error s =>
      rw [hcount] at he
      cases he
      exact .inr ⟨_, _, rfl⟩
  | lastNumber => cases he
  | write h w =>
    rw [exec_write] at he
    rcases hwrite : j.connection.write w with ⟨s | n, c⟩
    · rw [hwrite] at he
      cases he
      exact .inr ⟨_, _, rfl⟩
    · simp [hwrite] at he
  | @bind α β a k ha hk iha ihk =>
    rw [exec_bind] at he
    rcases hexec : exec a j with ⟨x | x, j₁⟩
    · rw [hexec] at he
      cases he
      exact iha hexec
    · rw [hexec] at he
      exact ihk x he

/-- A program leaves the open transaction open, unless its error takes it along. -/
theorem frames_eq (h : Program mayWrite mayRaise a) {j : Journal} (hj : j.connection.frames ≠ [])
    (he : ∀ e, (exec a j).1 = .error e → ¬e.Aborts) :
    (exec a j).2.connection.frames = j.connection.frames ∧ (exec a j).2.connection.depth = j.connection.depth := by
  induction h generalizing j with
  | value x => exact ⟨rfl, rfl⟩
  | failure h => exact ⟨rfl, rfl⟩
  | report e => exact ⟨rfl, rfl⟩
  | rows q =>
    rw [exec_rows]
    cases j.connection.database.rows q <;> exact ⟨rfl, rfl⟩
  | count table column condition =>
    rw [exec_count]
    cases j.connection.database.count table column condition <;> exact ⟨rfl, rfl⟩
  | lastNumber => exact ⟨rfl, rfl⟩
  | write h w =>
    have hkept := Storage.Connection.frames_write hj fun ⟨e, hs, hrolls⟩ => he _ (exec_write_error hs) hrolls
    rw [exec_write]
    rcases hwrite : j.connection.write w with ⟨x, c⟩
    rw [hwrite] at hkept
    cases x <;> exact hkept
  | @bind α β a k ha hk iha ihk =>
    rw [exec_bind] at he ⊢
    have hfirst := iha hj
    rcases hexec : exec a j with ⟨x | x, j₁⟩
    · rw [hexec] at he hfirst
      exact hfirst fun e hx => he e (by cases hx; rfl)
    · rw [hexec] at he hfirst
      obtain ⟨hframes, hdepth⟩ := hfirst fun e hx => by cases hx
      have hrest := ihk x (j := j₁) (by rw [hframes]; exact hj) he
      exact ⟨hrest.1.trans hframes, hrest.2.trans hdepth⟩

/-- A program has the same result and the same effect inside of a transaction as outside, unless its error inside
takes the transaction along, or a reference that is left open is refused outside. -/
theorem mirrors (h : Program mayWrite mayRaise a) {j k : Journal} (hm : j.Mirrors k)
    (hinside : ∀ e, (exec a j).1 = .error e → ¬e.Aborts)
    (houtside : ∀ e, (exec a k).1 = .error e → ¬e.IsOpenReference) :
    (exec a j).1 = (exec a k).1 ∧ (exec a j).2.Mirrors (exec a k).2 := by
  induction h generalizing j k with
  | value x => exact ⟨rfl, hm⟩
  | failure h => exact ⟨rfl, hm⟩
  | report e =>
    refine ⟨rfl, ?_, hm.connection⟩
    show j.events ++ [e] = k.events ++ [e]
    rw [hm.events]
  | rows q =>
    rw [exec_rows, exec_rows, hm.connection.database]
    cases k.connection.database.rows q <;> exact ⟨rfl, hm⟩
  | count table column condition =>
    rw [exec_count, exec_count, hm.connection.database]
    cases k.connection.database.count table column condition <;> exact ⟨rfl, hm⟩
  | lastNumber =>
    refine ⟨?_, hm⟩
    show Except.ok j.connection.lastNumber = .ok k.connection.lastNumber
    rw [hm.connection.lastNumber]
  | write h w =>
    obtain ⟨hsame, hnext⟩ := hm.connection.write (fun ⟨e, hs, hrolls⟩ => hinside _ (exec_write_error hs) hrolls)
      fun hs => houtside _ (exec_write_error hs) trivial
    rw [exec_write, exec_write]
    rcases hj : j.connection.write w with ⟨x, c⟩
    rcases hk : k.connection.write w with ⟨y, d⟩
    rw [hj, hk] at hsame hnext
    obtain rfl : x = y := hsame
    cases x <;> exact ⟨rfl, hm.events, hnext⟩
  | @bind α β a f ha hf iha ihf =>
    obtain ⟨hsame, hnext⟩ := iha hm (fun e hx => hinside e (exec_bind_fst_error hx))
      fun e hy => houtside e (exec_bind_fst_error hy)
    rw [exec_bind] at hinside houtside ⊢
    rw [exec_bind]
    rcases hj : exec a j with ⟨x, j₁⟩
    rcases hk : exec a k with ⟨y, k₁⟩
    rw [hj, hk] at hsame hnext
    rw [hj] at hinside
    rw [hk] at houtside
    obtain rfl : x = y := hsame
    cases x with
    | error e => exact ⟨rfl, hnext⟩
    | ok x => exact ihf x hnext hinside houtside

/-! ### Compound steps -/

theorem lift (r : Except RepositoryError α) (h : ∀ e, r = .error e → mayRaise e) :
    Program mayWrite mayRaise (liftM r : Action α) := by
  cases r with
  | ok x => exact value x
  | error e => exact failure (h e rfl)

theorem resolve (r : Except CriteriaError α) (h : ∀ e, r = .error e → mayRaise (.criteria e)) :
    Program mayWrite mayRaise (Action.resolve r) := by
  cases r with
  | ok x => exact value x
  | error e => exact failure (h e rfl)

theorem firstRow? (q : Sql.Select) : Program mayWrite mayRaise (Action.firstRow? q) :=
  (rows q).bind fun _ => value _

/-- A program may be allowed to fail in more ways than it does. -/
theorem mono {mayRaise' : RepositoryError → Prop} (h : Program mayWrite mayRaise a)
    (hsub : ∀ e, mayRaise e → mayRaise' e) : Program mayWrite mayRaise' a := by
  induction h with
  | value x => exact .value x
  | failure he => exact .failure (hsub _ he)
  | report e => exact .report e
  | rows q => exact .rows q
  | count table column condition => exact .count table column condition
  | lastNumber => exact .lastNumber
  | write hw w => exact .write hw w
  | bind _ _ iha ihk => exact iha.bind ihk

theorem ite {b : Bool} {a₁ a₂ : Action α} (h₁ : Program mayWrite mayRaise a₁) (h₂ : Program mayWrite mayRaise a₂) :
    Program mayWrite mayRaise (if b then a₁ else a₂) := by
  cases b with
  | true => exact h₁
  | false => exact h₂

end Action.Program

/-! ### Rows -/

namespace Rows

open CriteriaStore.Action (Program)

variable {mayWrite : Prop} {mayRaise : RepositoryError → Prop} {m : Mapping ε} {filter : Option Filter}
  {sort : Option SortOrder} {fields : Option FieldSet}

theorem find_program (id : Scalar)
    (h : ∀ e, Sql.Projection.ofFields m.properties fields = .error e → mayRaise (.criteria e)) :
    Program mayWrite mayRaise (find m id fields) :=
  .ite (.value _) ((Program.resolve _ h).bind fun _ => (Program.report _).bind fun _ => .firstRow? _)

theorem exists_program (m : Mapping ε) (id : Scalar) : Program mayWrite mayRaise (Rows.exists m id) :=
  (find_program id fun _ he => nomatch he).bind fun _ => .value _

theorem findBy_program (hproj : ∀ e, Sql.Projection.ofFields m.properties fields = .error e → mayRaise (.criteria e))
    (hsel : ∀ projection e, m.selection projection filter sort {} = .error e → mayRaise (.criteria e)) :
    Program mayWrite mayRaise (findBy m filter sort fields) :=
  (Program.resolve _ hproj).bind fun projection =>
    (Program.resolve _ (hsel projection)).bind fun _ => (Program.report _).bind fun _ => .rows _

/-- Apart from storage, an update fails only when its assignments do. -/
theorem update_program (id : Scalar) {row : Row}
    (h : ∀ e, assignments m row false m.properties.columns {} = .error e → mayRaise e) :
    Program True mayRaise (update m id row) := by
  have hcounted (affected : Nat) : Program True mayRaise (do
      if 0 < affected then return .updated
      if ← Rows.exists m id then return .updated else return .missing : Action UpdateOutcome) := by
    by_cases hpos : 0 < affected
    · simp only [hpos, if_true]
      exact .value _
    · simp only [hpos, if_false]
      exact (exists_program m id).bind fun _ => .ite (.value _) (.value _)
  refine (Program.lift _ h).bind fun x => ?_
  obtain ⟨as, b⟩ := x
  cases hempty : as.isEmpty with
  | true =>
    simp only [hempty]
    exact (Program.value 0).bind hcounted
  | false =>
    simp only [hempty]
    exact (Program.report _).bind fun _ => (Program.write trivial _).bind hcounted

/-- Apart from storage, an insertion fails only when its assignments do. -/
theorem insert_program {row : Row}
    (h : ∀ e, assignments m row (!(assignedIdentity m row).isNull) m.properties.columns {} = .error e → mayRaise e) :
    Program True mayRaise (insert m row) := by
  refine (Program.lift _ h).bind fun x => (Program.report _).bind fun _ => (Program.write trivial _).bind fun _ => ?_
  exact .ite (Program.lastNumber.bind fun _ => .value _) (.value _)

/-- Apart from storage, reading a row back fails only when it has gone. -/
theorem reread_program {id : Scalar} (h : mayRaise (.notFoundAfterWrite m.table id.keyText)) :
    Program mayWrite mayRaise (reread m id) := by
  refine (find_program id fun _ he => nomatch he).bind fun row => ?_
  cases row with
  | none => exact .failure h
  | some row => exact .value row

theorem erase_program (m : Mapping ε) (id : Scalar) : Program True mayRaise (erase m id) :=
  .ite (.value _) ((Program.report _).bind fun _ => .write trivial _)

end Rows

end CriteriaStore
