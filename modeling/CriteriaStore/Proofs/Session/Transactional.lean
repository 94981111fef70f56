import CriteriaStore.Proofs.Repository.Sample
import CriteriaStore.Proofs.Session.Work

/-!
# Transactions are all or nothing

Work inside of a transaction has the same replies and the same effect as its calls alone have outside
(`Mirrors.work`). So a transaction whose work succeeds leaves what the calls leave when they are made directly, and one
whose work fails, or that is still held on to, leaves nothing (`transactional_allOrNothing`).

References that are left open make a difference: a transaction may close them before its end, and a call outside of any
transaction is refused.
-/

namespace CriteriaStore

open Storage (Connection Database)

variable {ε ρ β : Type}

namespace Session

variable {s d : Session} {db : Nat} {outer : List Nat}

/-! ### Inside and outside -/

/-- Two sessions with the same data of a database, one of them inside of a transaction and the other one outside. -/
structure Mirrors (s d : Session) (db : Nat) (outer : List Nat) : Prop where
  blocks : s.blocks = db :: outer
  outside : d.inTransaction db = false
  free : (d.stores db).busy = false
  connection : (s.stores db).connection.Mirrors (d.stores db).connection

/-- A call has the same reply and the same effect inside as outside. -/
theorem Mirrors.run (h : s.Mirrors d db outer) {st : Step ε ρ} (hcall : st.isCall) (hon : st.IsOn db)
    (hinside : ∀ e, (s.run st).1.error? = some e → ¬e.Aborts)
    (houtside : ∀ e, (d.run st).1.error? = some e → ¬e.IsOpenReference) :
    (s.run st).1 = (d.run st).1 ∧ (s.run st).2.Mirrors (d.run st).2 db outer := by
  obtain ⟨α, a, reply, hprogram, herror, hrun⟩ := run_call (ε := ε) (ρ := ρ) hcall hon
  have hs := hrun s (.inl (inTransaction_of_blocks h.blocks))
  have hd := hrun d (.inr h.free)
  rw [hs] at hinside ⊢
  rw [hd] at houtside ⊢
  rw [Action.runOn_eq_exec] at hinside houtside ⊢
  rw [Action.runOn_eq_exec]
  obtain ⟨hsame, hnext⟩ := hprogram.mirrors (j := { connection := (s.stores db).connection })
    (k := { connection := (d.stores db).connection }) ⟨rfl, h.connection⟩
    (fun e he => hinside e (by rw [he, herror])) fun e he => houtside e (by rw [he, herror])
  refine ⟨by rw [hsame, hnext.events], h.blocks, h.outside, ?_, ?_⟩
  · rw [stores_setStore]
    exact h.free
  · rw [stores_setStore, stores_setStore]
    exact hnext.connection

theorem Mirrors.run_other (h : s.Mirrors d db outer) {st : Step ε ρ} (hcall : st.isCall = false) (hon : st.IsOn db) :
    (s.run st).2.Mirrors d db outer := by
  obtain ⟨hblocks, hstore⟩ := Session.run_other h.blocks hcall hon
  refine ⟨hblocks.trans h.blocks, h.outside, h.free, ?_⟩
  rw [hstore]
  exact h.connection

theorem runAll_cons (d : Session) (st : Step ε ρ) (rest : List (Step ε ρ)) :
    d.runAll false (st :: rest) =
      (⟨(d.run st).1 :: ((d.run st).2.runAll false rest).1.replies, ((d.run st).2.runAll false rest).1.failure⟩,
        ((d.run st).2.runAll false rest).2) := by
  rw [runAll]
  rfl

/-- Work has the same replies and the same effect inside as its calls alone have outside. -/
theorem Mirrors.work (h : s.Mirrors d db outer) {w : Work ε ρ β} (hw : w.IsOn db)
    (hinside : ∀ reply ∈ Trace.replies (w.run s).1.2, ∀ e, reply.error? = some e → ¬e.Aborts)
    (houtside : ∀ reply ∈ (d.runAll false (Trace.calls (w.run s).1.2).steps).1.replies,
      ∀ e, reply.error? = some e → ¬e.IsOpenReference) :
    (d.runAll false (Trace.calls (w.run s).1.2).steps).1.replies = (Trace.calls (w.run s).1.2).replies ∧
      (w.run s).2.Mirrors (d.runAll false (Trace.calls (w.run s).1.2).steps).2 db outer := by
  induction w generalizing s d with
  | done x =>
    rw [show Trace.steps (Trace.calls ((Work.done x).run s : (β × Trace ε ρ) × Session).1.2) = [] from rfl, runAll]
    exact ⟨rfl, h⟩
  | step st next ih =>
    rw [Work.run_step] at hinside houtside ⊢
    have hrest : ∀ reply ∈ Trace.replies ((next (s.run st).1).run (s.run st).2).1.2,
        ∀ e, reply.error? = some e → ¬e.Aborts := fun reply hr => hinside reply (List.mem_cons_of_mem _ hr)
    cases hcall : st.isCall with
    | true =>
      have hcalls : Trace.calls ((s, st) :: ((next (s.run st).1).run (s.run st).2).1.2) =
          (s, st) :: Trace.calls ((next (s.run st).1).run (s.run st).2).1.2 := List.filter_cons_of_pos hcall
      have hsteps : Trace.steps (Trace.calls ((s, st) :: ((next (s.run st).1).run (s.run st).2).1.2)) =
          st :: Trace.steps (Trace.calls ((next (s.run st).1).run (s.run st).2).1.2) := by
        rw [hcalls]
        rfl
      simp only [hsteps, runAll_cons] at houtside ⊢
      obtain ⟨hsame, hnext⟩ := h.run hcall hw.1 (hinside _ List.mem_cons_self) (houtside _ List.mem_cons_self)
      obtain ⟨hreplies, hend⟩ := ih _ hnext (hw.2 _) hrest fun reply hr =>
        houtside reply (List.mem_cons_of_mem _ hr)
      refine ⟨?_, hend⟩
      rw [hreplies, hcalls, ← hsame]
      rfl
    | false =>
      -- outside the step is left out
      have hcalls : Trace.calls ((s, st) :: ((next (s.run st).1).run (s.run st).2).1.2) =
          Trace.calls ((next (s.run st).1).run (s.run st).2).1.2 := List.filter_cons_of_neg (by simp [hcall])
      simp only [hcalls] at houtside ⊢
      exact ih _ (h.run_other hcall hw.1) (hw.2 _) hrest houtside

/-! ### The end of a transaction -/

/-- Whether a database is not in a transaction: nothing holds on to its connection, and no level is open. -/
structure Idle (s : Session) (db : Nat) : Prop where
  free : (s.stores db).busy = false
  closed : (s.stores db).connection.Closed
  outside : db ∉ s.blocks

theorem Idle.inTransaction (h : s.Idle db) : s.inTransaction db = false := by
  unfold Session.inTransaction
  cases hblocks : s.blocks with
  | nil => rfl
  | cons db' rest =>
    have hne : db' ≠ db := fun he => h.outside (by rw [hblocks, he]; exact List.mem_cons_self)
    simpa using hne

theorem Idle.openTransaction (h : s.Idle db) :
    ∃ opened, s.openTransaction db = .ok opened ∧
      opened.Inside db (s.stores db).connection.database s.blocks ∧ opened.Mirrors s db s.blocks := by
  obtain ⟨c, hbegin, hopened, hdatabase, hnumber⟩ := h.closed.begin
  have hstore : ({ s.setStore db { connection := c, busy := true } with blocks := db :: s.blocks } :
      Session).stores db = { connection := c, busy := true } := stores_setStore s db _
  refine ⟨_, by simp only [Session.openTransaction, h.free, hbegin]; rfl, ⟨rfl, ?_⟩, rfl, h.inTransaction, h.free, ?_⟩
  · rw [hstore]
    exact hopened
  · rw [hstore]
    refine ⟨hdatabase, hnumber, ?_, h.closed.frames⟩
    rw [hopened.frames]
    simp

variable {κ α : Type}

/-- How a transaction of a database ends, given the verdict on its work and the session at the end of it. -/
inductive AllOrNothing (s : Session) (db : Nat) (verdict : Except κ α) (trace : Trace ε ρ) (worked : Session)
    (result : Except (TransactionError κ) α) (after : Session) : Prop
  /-- A runner is still held: nothing is committed, and nothing is left when the runner is let go. -/
  | held (hheld : worked.isHeld db) (hresult : result = .error (.infra outlivedText))
      (huncommitted : (after.stores db).connection.abandon.database = (s.stores db).connection.database)
      (hreleased : (after.release.stores db).connection.database = (s.stores db).connection.database)
  /-- The work failed: everything is as it was before. -/
  | failed (hheld : worked.isHeld db = false) (e : κ) (hverdict : verdict = .error e)
      (hresult : result = .error (.work e)) (hidle : after.Idle db)
      (hrestored : (after.stores db).connection.database = (s.stores db).connection.database)
  /-- The work succeeded and left no reference open, so its data is committed: the calls alone, made directly, have the
  same replies and leave the same data, unless one of them is refused for a reference that it leaves open. -/
  | committed (hheld : worked.isHeld db = false) (x : α) (hverdict : verdict = .ok x)
      (hconsistent : (worked.stores db).connection.database.isConsistent = true) (hresult : result = .ok x)
      (hidle : after.Idle db)
      (hkept : (after.stores db).connection.database = (worked.stores db).connection.database)
      (hdirect : (∀ reply ∈ (s.runAll false trace.calls.steps).1.replies,
          ∀ e, reply.error? = some e → ¬e.IsOpenReference) →
        (s.runAll false trace.calls.steps).1.replies = trace.calls.replies ∧
          ((s.runAll false trace.calls.steps).2.stores db).connection.database =
            (after.stores db).connection.database)
  /-- The work succeeded and left a reference open, so it could not be committed: everything is as it was before. -/
  | refused (hheld : worked.isHeld db = false) (x : α) (hverdict : verdict = .ok x)
      (hinconsistent : (worked.stores db).connection.database.isConsistent = false)
      (hresult : result = .error (.infra (stepText .missingParent))) (hidle : after.Idle db)
      (hrestored : (after.stores db).connection.database = (s.stores db).connection.database)

private theorem idle_setStore (h : db ∉ s.blocks) {c : Connection} (hc : c.Closed) :
    (s.setStore db { connection := c }).Idle db where
  free := by rw [stores_setStore]
  closed := by
    rw [stores_setStore]
    exact hc
  outside := h

private theorem commit_eq {c : Connection} (hc : (s.stores db).connection.commit = (.ok (), c)) :
    s.commit db = (.ok (), s.setStore db { connection := c }) := by
  unfold Session.commit
  rw [hc]

private theorem commit_eq_refused {c c' : Connection} {e : Storage.StorageError}
    (hc : (s.stores db).connection.commit = (.error e, c)) (hr : c.rollback = (.ok (), c')) :
    s.commit db = (.error (stepText e), s.setStore db { connection := c' }) := by
  unfold Session.commit
  rw [hc]
  simp only [hr]

private theorem rollback_eq {c : Connection} (hc : (s.stores db).connection.rollback = (.ok (), c)) :
    s.rollback db = (.ok (), s.setStore db { connection := c }) := by
  unfold Session.rollback
  rw [hc]

private theorem release_stores (hheld : s.isHeld db) (hblocks : db ∉ s.blocks) :
    (s.release.stores db).connection = (s.stores db).connection.rollback.2 := by
  simp [release, hheld, hblocks]

private theorem given_eq (h : s.Idle db) {opened worked : Session} (hopen : s.openTransaction db = .ok opened)
    {γ : Type} {y : γ} (work : Session → γ × Session) (hwork : work opened = (y, worked))
    (verdict : γ → Except κ α) : (s.transactional db work verdict).1.given = some y := by
  unfold transactional
  simp only [h.inTransaction, hopen, hwork, Bool.false_eq_true, if_false]
  repeat' split
  all_goals rfl

/-- A transaction whose work left the transaction open ends in one of four ways. -/
private theorem allOrNothing_of_inside (h : s.Idle db) {worked : Session} {trace : Trace ε ρ} {y : β × Trace ε ρ}
    (hinside : worked.Inside db (s.stores db).connection.database s.blocks)
    (hdirect : (∀ reply ∈ (s.runAll false trace.calls.steps).1.replies,
        ∀ e, reply.error? = some e → ¬e.IsOpenReference) →
      (s.runAll false trace.calls.steps).1.replies = trace.calls.replies ∧
        worked.Mirrors (s.runAll false trace.calls.steps).2 db s.blocks)
    {opened : Session} (hopen : s.openTransaction db = .ok opened) {work : Session → (β × Trace ε ρ) × Session}
    (hwork : work opened = (y, worked)) (verdict : β × Trace ε ρ → Except κ α) :
    AllOrNothing s db (verdict y) trace worked (s.transactional db work verdict).1.result
      (s.transactional db work verdict).2 := by
  obtain ⟨back, hrollback, hclosed, hrestored⟩ := hinside.opened.rollback
  unfold transactional
  simp only [h.inTransaction, hopen, hwork, Bool.false_eq_true, if_false]
  cases hheld : ({ worked with blocks := s.blocks } : Session).isHeld db with
  | true =>
    simp only [if_true]
    refine .held hheld rfl hinside.opened.abandon.1 ?_
    rw [release_stores hheld h.outside]
    show (worked.stores db).connection.rollback.2.database = _
    rw [hrollback]
    exact hrestored
  | false =>
    simp only [Bool.false_eq_true, if_false]
    cases hverdict : verdict y with
    | error e =>
      simp only [rollback_eq (s := { worked with blocks := s.blocks }) hrollback]
      refine .failed hheld e rfl rfl (idle_setStore (s := { worked with blocks := s.blocks }) h.outside hclosed) ?_
      rw [stores_setStore]
      exact hrestored
    | ok x =>
      cases hconsistent : (worked.stores db).connection.database.isConsistent with
      | true =>
        obtain ⟨kept, hcommit, hclosed, hkept⟩ := hinside.opened.commit hconsistent
        simp only [commit_eq (s := { worked with blocks := s.blocks }) hcommit]
        refine .committed hheld x rfl hconsistent rfl
          (idle_setStore (s := { worked with blocks := s.blocks }) h.outside hclosed) ?_ fun hfree => ?_
        · rw [stores_setStore]
          exact hkept
        · obtain ⟨hreplies, hmirrors⟩ := hdirect hfree
          refine ⟨hreplies, ?_⟩
          rw [stores_setStore, ← hmirrors.connection.database]
          exact hkept.symm
      | false =>
        -- the transaction is still open, and is undone at once
        have hcommit := hinside.opened.commit_refused hconsistent
        simp only [commit_eq_refused (s := { worked with blocks := s.blocks }) hcommit hrollback]
        refine .refused hheld x rfl hconsistent rfl
          (idle_setStore (s := { worked with blocks := s.blocks }) h.outside hclosed) ?_
        rw [stores_setStore]
        exact hrestored

/-! ### Removing every row -/

/-- The step that removes every row of a mapping. -/
def clear (m : Mapping (Scalar × Row)) : Step (Scalar × Row) Unit := .rows 0 .runner m .mapped (.shared (.eraseBy none))

/-- Work that removes every row of some mappings, one after the other. -/
def clearing : List (Mapping (Scalar × Row)) → Work (Scalar × Row) Unit Unit
  | [] => .done ()
  | m :: rest => .step (clear m) fun _ => clearing rest

theorem isOn_clearing (ms : List (Mapping (Scalar × Row))) : (clearing ms).IsOn 0 := by
  induction ms with
  | nil => trivial
  | cons m rest ih => exact ⟨rfl, fun _ => ih⟩

variable {m n : Mapping (Scalar × Row)}

/-- The step does to the connection what its one statement does. -/
private theorem run_clear (h : s.inTransaction 0 ∨ (s.stores 0).busy = false) {x : Except Storage.StorageError Nat}
    {c : Connection} (hwrite : (s.stores 0).connection.write (.delete m.table none) = (x, c)) :
    ∃ events, s.run (clear m) =
      (.rows ((x.mapError (.storage .execution)).map .number) events,
        s.setStore 0 { s.stores 0 with connection := c }) := by
  have hgives : (Rows.eraseBy m none).Gives (s.stores 0).connection (x.mapError (.storage .execution)) c := by
    have hstatement := Action.gives_write_result (.delete m.table none) (s.stores 0).connection
    rw [hwrite] at hstatement
    refine (Action.gives_resolve (none, ({} : Bindings)) _).bind ?_
    exact Action.Gives.bind (x := ()) (fun _ => ⟨_, rfl⟩) ((Action.gives_built _ _ _ _).bind hstatement)
  obtain ⟨events, hexec⟩ := hgives []
  have hanswer : (Rows.answer m .mapped (.shared (.eraseBy none))).runOn (s.stores 0).connection =
      ((x.mapError (.storage .execution)).map .number, ⟨c, events⟩) := by
    rw [Action.runOn_eq_exec]
    unfold Rows.answer
    rw [Action.exec_bind, hexec]
    cases x <;> rfl
  refine ⟨events, ?_⟩
  unfold clear
  rw [run_rows h, hanswer]

/-- A session on a notebook with one tag and one note about it. -/
def reading : Session := start { database := Sample.notebook Sample.tagTable.records [Sample.note] }

theorem idle_reading : reading.Idle 0 := ⟨rfl, ⟨rfl, rfl⟩, by simp [reading, start]⟩

/-- Whether a session is inside of a transaction on the notebook that has come to a database. -/
structure Reads (s : Session) (now : Database) : Prop where
  blocks : s.blocks = [0]
  held : s.held = []
  database : (s.stores 0).connection.database = now
  opened : (s.stores 0).connection.Opened (Sample.notebook Sample.tagTable.records [Sample.note])

theorem exists_reads : ∃ opened, reading.openTransaction 0 = .ok opened ∧
    opened.Reads (Sample.notebook Sample.tagTable.records [Sample.note]) :=
  ⟨_, rfl, rfl, rfl, rfl, rfl, rfl⟩

variable {now : Database} {r r' : Storage.Written}

theorem Reads.clear (h : s.Reads now) (hwrite : now.write (.delete m.table none) = .ok r) :
    (s.run (clear m)).1.error? = none ∧ (s.run (clear m)).2.Reads r.database := by
  have hin : s.inTransaction 0 := inTransaction_of_blocks h.blocks
  have hconnection : (s.stores 0).connection.write (.delete m.table none) = (.ok r.affected,
      { (s.stores 0).connection with
        database := r.database
        lastNumber := r.number.getD (s.stores 0).connection.lastNumber }) := by
    unfold Connection.write
    rw [h.database, hwrite]
    simp only [h.opened.frames]
    rfl
  obtain ⟨events, hrun⟩ := run_clear (.inl hin) hconnection
  rw [hrun]
  refine ⟨rfl, h.blocks, h.held, ?_, ?_⟩
  · rw [stores_setStore]
  · rw [stores_setStore]
    exact ⟨h.opened.frames, h.opened.depth⟩

theorem Reads.clearing (h : s.Reads now) (hwrite : now.write (.delete m.table none) = .ok r)
    (hwrite' : r.database.write (.delete n.table none) = .ok r') :
    ∃ (trace : Trace (Scalar × Row) Unit) (worked : Session), (clearing [m, n]).run s = (((), trace), worked) ∧
      trace.calls.steps = [Session.clear m, Session.clear n] ∧ (∀ reply ∈ trace.replies, reply.error? = none) ∧
      worked.Reads r'.database := by
  obtain ⟨hfirst, hnext⟩ := h.clear hwrite
  obtain ⟨hsecond, hend⟩ := hnext.clear hwrite'
  refine ⟨_, _, rfl, rfl, fun reply hr => ?_, hend⟩
  rcases List.mem_cons.1 hr with rfl | hr
  · exact hfirst
  · rw [List.mem_singleton.1 hr]
    exact hsecond

/-- Two such steps outside of transactions do to the connection what their statements do. -/
private theorem runAll_clear (hfree : (s.stores 0).busy = false) {x y : Except Storage.StorageError Nat}
    {c c' : Connection} (hfirst : (s.stores 0).connection.write (.delete m.table none) = (x, c))
    (hsecond : c.write (.delete n.table none) = (y, c')) :
    ∃ events events', (s.runAll false [clear m, clear n]).1.replies =
        [.rows ((x.mapError (.storage .execution)).map .number) events,
          .rows ((y.mapError (.storage .execution)).map .number) events'] ∧
      ((s.runAll false [clear m, clear n]).2.stores 0).connection = c' := by
  obtain ⟨events, hrun⟩ := run_clear (.inr hfree) hfirst
  have hstore : (s.run (clear m)).2.stores 0 = { s.stores 0 with connection := c } := by
    rw [hrun, stores_setStore]
  have hfree' : ((s.run (clear m)).2.stores 0).busy = false := by
    rw [hstore]
    exact hfree
  have hsecond' : ((s.run (clear m)).2.stores 0).connection.write (.delete n.table none) = (y, c') := by
    rw [hstore]
    exact hsecond
  obtain ⟨events', hrun'⟩ := run_clear (.inr hfree') hsecond'
  have hboth : s.runAll false [clear m, clear n] =
      (⟨[(s.run (clear m)).1, ((s.run (clear m)).2.run (clear n)).1], none⟩,
        ((s.run (clear m)).2.run (clear n)).2) := by
    rw [runAll_cons, runAll_cons, runAll]
  rw [hboth, hrun']
  refine ⟨events, events', ?_, congrArg Store.connection (stores_setStore _ 0 _)⟩
  rw [hrun]

/-- Outside of transactions the tags stay as long as there is a note about one of them. -/
theorem runAll_clear_tags_notes :
    ((reading.runAll false [clear Sample.tags, clear Sample.notes]).2.stores 0).connection.database =
      Sample.notebook Sample.tagTable.records [] := by
  have hopen : (Sample.notebook [] [Sample.note]).isConsistent = false := by decide +kernel
  have hclosed : (Sample.notebook Sample.tagTable.records []).isConsistent := by decide +kernel
  have htags : (reading.stores 0).connection.write (.delete Sample.tags.table none) =
      (.error .missingParent, (reading.stores 0).connection) := by
    show Connection.write { database := Sample.notebook _ _ } (.delete "tags" none) = _
    unfold Connection.write
    simp only [Sample.write_delete_tags, hopen]
    rfl
  have hnotes : (reading.stores 0).connection.write (.delete Sample.notes.table none) =
      (.ok 1, { (reading.stores 0).connection with database := Sample.notebook Sample.tagTable.records [] }) := by
    show Connection.write { database := Sample.notebook _ _ } (.delete "notes" none) = _
    unfold Connection.write
    simp only [Sample.write_delete_notes, hclosed]
    rfl
  obtain ⟨events, events', -, hconnection⟩ := runAll_clear rfl htags hnotes
  rw [hconnection]

/-- After the note they can be removed. -/
theorem runAll_clear_notes_tags :
    (∀ reply ∈ (reading.runAll false [clear Sample.notes, clear Sample.tags]).1.replies, reply.error? = none) ∧
      ((reading.runAll false [clear Sample.notes, clear Sample.tags]).2.stores 0).connection.database =
        Sample.notebook [] [] := by
  have hclosed : (Sample.notebook Sample.tagTable.records []).isConsistent := by decide +kernel
  have hempty : (Sample.notebook [] []).isConsistent := by decide +kernel
  have hnotes : (reading.stores 0).connection.write (.delete Sample.notes.table none) =
      (.ok 1, { (reading.stores 0).connection with database := Sample.notebook Sample.tagTable.records [] }) := by
    show Connection.write { database := Sample.notebook _ _ } (.delete "notes" none) = _
    unfold Connection.write
    simp only [Sample.write_delete_notes, hclosed]
    rfl
  have htags : Connection.write { (reading.stores 0).connection with
      database := Sample.notebook Sample.tagTable.records [] } (.delete Sample.tags.table none) =
      (.ok Sample.tagTable.records.length, { (reading.stores 0).connection with database := Sample.notebook [] [] }) := by
    show Connection.write { database := Sample.notebook _ _ } (.delete "tags" none) = _
    unfold Connection.write
    simp only [Sample.write_delete_tags, hempty]
    rfl
  obtain ⟨events, events', hreplies, hconnection⟩ := runAll_clear rfl hnotes htags
  refine ⟨fun reply hr => ?_, by rw [hconnection]⟩
  rw [hreplies] at hr
  rcases List.mem_cons.1 hr with rfl | hr
  · rfl
  · rw [List.mem_singleton.1 hr]
    rfl

/-! ### All or nothing -/

/-- A transaction is all or nothing, for any work on a database that is not in a transaction. Inside of it a further
transaction and a plain connection are refused and change nothing. When no error of a call takes the transaction along,
a runner that is still held, a failure of the work and a reference that it leaves open undo everything, and otherwise what
the work left is committed, which is what its calls leave when they are made directly. -/
theorem transactional_allOrNothing (h : s.Idle db) {w : Work ε ρ β} (hw : w.IsOn db) (verdict : β → Except κ α) :
    ∃ (opened worked : Session) (x : β) (trace : Trace ε ρ) (ending : Ending (β × Trace ε ρ) κ α) (after : Session),
      s.openTransaction db = .ok opened ∧ w.run opened = ((x, trace), worked) ∧
      s.transactional db (fun s => w.run s) (fun y => verdict y.1) = (ending, after) ∧
      ending.given = some (x, trace) ∧
      (∀ p ∈ trace, ∀ steps propagate fail, p.2 = .transaction db steps propagate fail →
        p.1.run p.2 = (.transaction (.error .nested) [] [], p.1)) ∧
      (∀ p ∈ trace, ∀ m flatten r, p.2 = .rows db .plain m flatten r →
        p.1.run p.2 = (.rows (.error .connectionInTransaction) [], p.1)) ∧
      ((∀ reply ∈ trace.replies, ∀ e, reply.error? = some e → ¬e.Aborts) →
        AllOrNothing s db (verdict x) trace worked ending.result after) := by
  obtain ⟨opened, hopen, hinside, hmirrors⟩ := h.openTransaction
  obtain ⟨-, htrace⟩ := blocks_work hinside.blocks hw
  have hgiven := given_eq h hopen (fun s => w.run s) rfl fun y : β × Trace ε ρ => verdict y.1
  refine ⟨opened, (w.run opened).2, (w.run opened).1.1, (w.run opened).1.2, _, _, hopen, rfl, rfl, hgiven, ?_, ?_, ?_⟩
  · intro p hp steps propagate fail hstep
    rw [hstep]
    exact run_nested (htrace p hp).1 steps propagate fail
  · intro p hp m flatten r hstep
    rw [hstep]
    exact run_plain (htrace p hp).1 m flatten r
  · intro hkept
    exact allOrNothing_of_inside h (hinside.work hw hkept) (fun hfree => hmirrors.work hw hkept hfree) hopen rfl
      fun y => verdict y.1

/-- Work that removes the note before the tags, of which it is about one, is committed: nothing is left, neither by the
transaction nor by the two calls when they are made directly. -/
theorem transactional_allOrNothing_of_clearing :
    reading.Idle 0 ∧ (clearing [Sample.notes, Sample.tags]).IsOn 0 ∧
      ∃ (trace : Trace (Scalar × Row) Unit) (ending : Ending (Unit × Trace (Scalar × Row) Unit) Unit Unit)
        (after : Session),
        reading.transactional 0 (fun s => (clearing [Sample.notes, Sample.tags]).run s) (fun _ => .ok ()) =
          (ending, after) ∧
        ending.given = some ((), trace) ∧ ending.result = .ok () ∧
        (after.stores 0).connection.database = Sample.notebook [] [] ∧
        (reading.runAll false trace.calls.steps).1.replies = trace.calls.replies ∧
        ((reading.runAll false trace.calls.steps).2.stores 0).connection.database = Sample.notebook [] [] := by
  refine ⟨idle_reading, isOn_clearing _, ?_⟩
  obtain ⟨opened, worked, x, trace, ending, after, hopen, hwork, hrun, hgiven, -, -, hends⟩ :=
    transactional_allOrNothing idle_reading (isOn_clearing [Sample.notes, Sample.tags]) fun _ =>
      (.ok () : Except Unit Unit)
  obtain ⟨opened', hopen', hreads⟩ := exists_reads
  obtain rfl : opened' = opened := Except.ok.inj (hopen'.symm.trans hopen)
  obtain ⟨trace', worked', hwork', hsteps, hnone, hend⟩ := hreads.clearing (m := Sample.notes) (n := Sample.tags)
    (Sample.write_delete_notes _ _) (Sample.write_delete_tags _ _)
  obtain ⟨htrace, rfl⟩ := Prod.mk.inj (hwork'.symm.trans hwork)
  obtain rfl : trace' = trace := (Prod.mk.inj htrace).2
  have hconsistent : (worked'.stores 0).connection.database.isConsistent := by
    rw [hend.database]
    decide +kernel
  have hkeeps : ∀ reply ∈ trace'.replies, ∀ e, reply.error? = some e → ¬e.Aborts := by
    intro reply hr e he
    rw [hnone reply hr] at he
    cases he
  refine ⟨trace', ending, after, hrun, hgiven, ?_⟩
  cases hends hkeeps with
  | held hheld => simp [isHeld, hend.held] at hheld
  | failed _ e hverdict => cases hverdict
  | refused _ _ _ hinconsistent => simp [hconsistent] at hinconsistent
  | committed _ _ _ _ hresult _ hkept hdirect =>
    have hleft : (after.stores 0).connection.database = Sample.notebook [] [] := hkept.trans hend.database
    obtain ⟨hreplies, hdata⟩ := hdirect fun reply hr e he => by
      rw [hsteps] at hr
      rw [runAll_clear_notes_tags.1 reply hr] at he
      cases he
    exact ⟨hresult, hleft, hreplies, hdata.trans hleft⟩

/-- A transaction may leave a reference open for a while. The tags can be removed before the note about one of them is,
and nothing is left. Outside of a transaction the first of the same two calls is refused, and the tags stay. -/
theorem transactional_keeps_removed_tags :
    reading.Idle 0 ∧ (clearing [Sample.tags, Sample.notes]).IsOn 0 ∧
      ∃ (trace : Trace (Scalar × Row) Unit) (after : Session),
        reading.transactional 0 (fun s => (clearing [Sample.tags, Sample.notes]).run s)
            (fun _ => (.ok () : Except Unit Unit)) =
          (⟨some ((), trace), .ok (), [.started, .committed]⟩, after) ∧
        after.isHeld 0 = false ∧ (∀ reply ∈ trace.replies, reply.error? = none) ∧
        (after.stores 0).connection.database = Sample.notebook [] [] ∧
        ((reading.runAll false trace.calls.steps).2.stores 0).connection.database =
          Sample.notebook Sample.tagTable.records [] ∧
        ((reading.runAll false trace.calls.steps).2.stores 0).connection.database ≠
          (after.stores 0).connection.database := by
  refine ⟨idle_reading, isOn_clearing _, ?_⟩
  obtain ⟨opened, hopen, hreads⟩ := exists_reads
  obtain ⟨trace, worked, hwork, hsteps, hnone, hend⟩ := hreads.clearing (m := Sample.tags) (n := Sample.notes)
    (Sample.write_delete_tags _ _) (Sample.write_delete_notes _ _)
  have hempty : (Sample.notebook [] []).isConsistent := by decide +kernel
  obtain ⟨kept, hcommit, -, hkept⟩ := hend.opened.commit (by rw [hend.database]; exact hempty)
  have hheld : ({ worked with blocks := reading.blocks } : Session).isHeld 0 = false := by
    unfold isHeld
    simp only [hend.held]
    rfl
  have hleft : ((({ worked with blocks := reading.blocks } : Session).setStore 0 { connection := kept }).stores
      0).connection.database = Sample.notebook [] [] := by
    rw [stores_setStore, hkept]
    exact hend.database
  refine ⟨trace, ({ worked with blocks := reading.blocks } : Session).setStore 0 { connection := kept }, ?_, hheld,
    hnone, hleft, ?_, ?_⟩
  · unfold transactional
    simp only [idle_reading.inTransaction, hopen, hwork, hheld, Bool.false_eq_true, if_false,
      commit_eq (s := { worked with blocks := reading.blocks }) hcommit]
  · rw [hsteps]
    exact runAll_clear_tags_notes
  · rw [hsteps, hleft, runAll_clear_tags_notes]
    simp [Sample.notebook, Sample.tagTable]

end Session

end CriteriaStore
