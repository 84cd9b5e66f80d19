import ColumnStore.Proofs.Column.Sound

/-!
# Canonical columns

The placeholder behind a NULL is never read, so columns with the same values may still differ in
storage. A canonical column is the one that pushes of its values onto an empty column build; it is
determined by its definition and its values.
-/

namespace ColumnStore

theorem Cells.HasType.clear_eq {cells : Cells} {type : ColumnType} (storage : cells.HasType type) :
    cells.clear = empty type := by
  cases cells <;> cases type <;>
    first
    | rfl
    | exact storage.elim

namespace Column

variable {c : Column} {d : Definition} {value : Value} {values : List Value} {count : Nat}

/-- Pushes of its values onto an empty column build the column. -/
def Canonical (c : Column) : Prop := ofValues c.definition c.values = c

theorem canonical_empty (d : Definition) : (empty d).Canonical := by
  rw [Canonical, values_empty]
  rfl

theorem canonical_ofValues (default : ∀ v, d.default = some v → d.type.Admits v)
    (admitted : ∀ v ∈ values, d.type.Admits v) : (ofValues d values).Canonical := by
  rw [Canonical, definition_ofValues, values_ofValues default admitted]

theorem canonical_copies (default : ∀ v, d.default = some v → d.type.Admits v)
    (admitted : d.type.Admits value) : (copies d count value).Canonical :=
  canonical_ofValues default (admits_of_mem_replicate admitted)

theorem Canonical.appended (built : c.Canonical) (sound : c.Sound count)
    (admitted : c.definition.type.Admits value) : (c.appended value).Canonical := by
  rw [Canonical, definition_appended, values_appended sound admitted, ofValues, List.foldl_append]
  exact congrArg (·.appended value) built

/-- Nothing is left of a cleared column but its definition. -/
theorem clear_eq_empty (sound : c.Sound count) : c.clear = empty c.definition := by
  rw [clear, empty, sound.storage.clear_eq]

theorem foldl_appended_redefined (values : List Value) (c : Column) (d : Definition) :
    values.foldl Column.appended { c with definition := d } =
      { values.foldl Column.appended c with definition := d } := by
  induction values generalizing c with
  | nil => rfl
  | cons value rest ih => exact ih (c.appended value)

/-- The storage does not depend on a name or a default. -/
theorem Canonical.redefined (built : c.Canonical) (same : d.type = c.definition.type) :
    Canonical { c with definition := d } := by
  have start : empty d = { empty c.definition with definition := d } := by
    rw [empty, empty, same]
  have again := foldl_appended_redefined c.values (empty c.definition) d
  rw [← start] at again
  exact again.trans (congrArg (fun c : Column => { c with definition := d }) built)

end Column

end ColumnStore
