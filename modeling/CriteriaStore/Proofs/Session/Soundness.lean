import CriteriaStore.Proofs.Session.Work
import CriteriaStore.Proofs.Storage.Soundness

/-!
# What sessions keep

Every step of a session leaves its connections sound, the blocks of transactions and what goes wrong in them included
(`Session.Sound.run`). So the records of every database satisfy their declarations at all times, no reference is open
outside of transactions, and a mapping addresses the records of its table by any column whose values must differ
(`Session.Sound.addresses`).
-/

namespace CriteriaStore

open Storage (Table Database)

variable {ε ρ : Type}

namespace Session

variable {s : Session} {db : Nat}

/-- Whether all connections of a session are sound. -/
def Sound (s : Session) : Prop := ∀ db, (s.stores db).connection.Sound

namespace Sound

theorem setStore (h : s.Sound) {st : Store} (hst : st.connection.Sound) : (s.setStore db st).Sound := by
  intro i
  unfold Session.setStore
  dsimp only
  split
  · exact hst
  · exact h i

private theorem perform (h : s.Sound) (r : Runner) {α : Type} {a : Action α}
    (ha : Action.Program True (fun _ => True) a) : (s.perform db r a).2.Sound := by
  unfold Session.perform
  dsimp only
  split
  · exact h
  · exact h.setStore (ha.keeps (fun _ c w hc => hc.write w) (h db))

private theorem release (h : s.Sound) : s.release.Sound := by
  intro db
  unfold Session.release
  dsimp only
  split
  · exact (h db).rollback
  · exact h db

private theorem openTransaction (h : s.Sound) {opened : Session} (hopened : s.openTransaction db = .ok opened) :
    opened.Sound := by
  have hbegin := (h db).begin
  unfold Session.openTransaction at hopened
  dsimp only at hopened
  split at hopened
  · cases hopened
  · split at hopened
    · rename_i hresult
      rw [hresult] at hbegin
      cases hopened
      exact h.setStore hbegin
    · cases hopened

private theorem commit (h : s.Sound) : (s.commit db).2.Sound := by
  have hcommit := (h db).commit
  unfold Session.commit
  split
  · rename_i hresult
    rw [hresult] at hcommit
    exact h.setStore hcommit
  · rename_i hresult
    rw [hresult] at hcommit
    exact h.setStore hcommit.rollback

private theorem rollback (h : s.Sound) : (s.rollback db).2.Sound := by
  have hrollback := (h db).rollback
  unfold Session.rollback
  split
  · rename_i hresult
    rw [hresult] at hrollback
    exact h.setStore hrollback
  · rename_i hresult
    rw [hresult] at hrollback
    exact h.setStore hrollback.rollback

/-- A transaction keeps what its work keeps, however it ends. -/
private theorem transactional (h : s.Sound) {β κ α : Type} {work : Session → β × Session}
    (hwork : ∀ s : Session, s.Sound → (work s).2.Sound) (verdict : β → Except κ α) :
    (s.transactional db work verdict).2.Sound := by
  unfold Session.transactional
  split
  · exact h
  · split
    · exact h
    · rename_i opened hopened
      have hworked := hwork opened (h.openTransaction hopened)
      rcases hgiven : work opened with ⟨given, worked⟩
      rw [hgiven] at hworked
      have hafter : Sound { worked with blocks := s.blocks } := hworked
      have hcommit : (Session.commit { worked with blocks := s.blocks } db).2.Sound := hafter.commit
      have hrollback : (Session.rollback { worked with blocks := s.blocks } db).2.Sound := hafter.rollback
      dsimp only
      split
      · exact hafter
      · cases verdict given with
        | ok x =>
          rcases hend : Session.commit { worked with blocks := s.blocks } db with ⟨_ | _, ended⟩ <;>
            (rw [hend] at hcommit; exact hcommit)
        | error e =>
          rcases hend : Session.rollback { worked with blocks := s.blocks } db with ⟨_ | _, ended⟩ <;>
            (rw [hend] at hrollback; exact hrollback)

mutual

/-- Every step keeps a session sound. -/
theorem run {s : Session} (h : s.Sound) : (st : Step ε ρ) → (s.run st).2.Sound
  | .entities db repository request => by
    rw [Session.run]
    exact h.perform _ (repository.answer_upfront request).toProgram
  | .rows db access m flatten request => by
    rw [Session.run]
    unfold callRows
    cases access with
    | runner => exact h.perform _ (Rows.answer_upfront m flatten request).toProgram
    | plain =>
      cases s.plain db with
      | error e => exact h
      | ok r => exact h.perform r (Rows.answer_upfront m flatten request).toProgram
  | .transaction db steps propagate fail => by
    rw [Session.run]
    exact h.transactional (fun s hs => hs.runAll propagate steps) _
  | .invalid reason => by
    rw [Session.run]
    exact h
  | .status db => by
    rw [Session.run]
    exact h
  | .hold db => by
    rw [Session.run]
    exact h
  | .release => by
    rw [Session.run]
    exact h.release

/-- Whatever steps a session runs, it stays sound. -/
theorem runAll {s : Session} (h : s.Sound) (propagate : Bool) : (steps : List (Step ε ρ)) →
    (s.runAll propagate steps).2.Sound
  | [] => by
    rw [Session.runAll]
    exact h
  | st :: rest => by
    have hnext := h.run st
    rw [Session.runAll]
    dsimp only
    split
    · exact hnext
    · exact hnext.runAll propagate rest

end

/-- In a sound session a mapping addresses the records of its table by every column whose values must differ. -/
theorem addresses (h : s.Sound) {m : Mapping ε} {t : Table} (hreadable : Readable (s.stores db).connection m t)
    (hwritable : (s.stores db).connection.database.writable m.table = .ok t) (hs : t.schema.WellFormed)
    (hdeclared : m.identity ∈ t.schema.columnNames) (hidentity : t.schema.Separates m.identity) :
    Addresses (s.stores db).connection m t where
  toReadable := hreadable
  writable := hwritable
  named := (h db).database.named
  apart := by
    have ht := Database.mem_of_table? (Database.writable_eq_ok.1 hwritable).2
    exact ((h db).database.tables t ht).distinguishes hs hdeclared hidentity
  consistent := (h db).consistent

end Sound

/-- Whatever is done to the sample database, it stays sound. -/
theorem sound_runAll_sample (propagate : Bool) (steps : List (Step ε ρ)) :
    ((start Storage.Sample.connection).runAll propagate steps).2.Sound := by
  have hstart : Sound (start Storage.Sample.connection) := fun _ => Storage.Sample.sound
  exact hstart.runAll propagate steps

end Session

end CriteriaStore
