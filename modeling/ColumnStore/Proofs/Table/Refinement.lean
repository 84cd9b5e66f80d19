import ColumnStore.Proofs.Table.Columns

/-!
# A table is its rows

One call on a sound table commutes with reading it by rows, and so does a run of calls from a new
table. The definitions of the new table need only pass their own check of the default: names may
be repeated, there may be no columns, and a text may have any declared length.
-/

namespace ColumnStore.Table

variable {t : Table}

/-- Every column has one entry for each counted row, each counted row can be read with a value
for every column, and there is no row beyond them. -/
structure Aligned (t : Table) : Prop where
  columns : ∀ c ∈ t.columns, c.cells.size = t.rowCount ∧ c.nulls.size = t.rowCount
  full : ∀ i < t.rowCount, ∃ row, t.row? i = some row ∧ row.length = t.columns.length
  beyond : ∀ i, t.rowCount ≤ i → t.row? i = none

theorem Sound.tableAligned (sound : t.Sound) : t.Aligned where
  columns := by
    intro c member
    exact ⟨(sound c member).stored, (sound c member).marked⟩
  full := by
    intro i inside
    exact ⟨_, row?_eq sound inside, List.length_map _⟩
  beyond := by
    intro i outside
    exact row?_eq_none outside

/-- A change that is made as a whole does to the rows what its counterpart does. -/
theorem mapState_commit_byRows {new : Except Fault Table} {rows : Except Fault RowTable}
    (same : new.map byRows = rows) :
    (Call.perform.done (.commit t new)).mapState byRows = RowTable.perform.done t.byRows rows := by
  subst same
  cases new <;> rfl

theorem byRows_perform (sound : t.Sound) (call : Call) :
    (call.perform t).mapState byRows = t.byRows.perform call := by
  cases call with
  | insertRow names literals =>
    exact congrArg (Outcome.map fun _ => none) (byRows_insertRow sound names)
  | insert names literals =>
    exact congrArg (Outcome.map fun _ => none) (byRows_insert sound names)
  | select projection =>
    rw [RowTable.perform, byRows_select sound]
    rfl
  | truncate =>
    rw [RowTable.perform, ← byRows_truncate]
    rfl
  | addColumns new defaults => exact mapState_commit_byRows (byRows_addColumns sound new defaults)
  | removeColumns names => exact mapState_commit_byRows (byRows_removeColumns sound names)
  | renameColumn old new => exact mapState_commit_byRows (byRows_renameColumn sound old new)
  | modifyColumns definitions =>
    exact mapState_commit_byRows (byRows_modifyColumns sound definitions)
  | setDefault name literal => exact mapState_commit_byRows (byRows_setDefault sound name literal)
  | dropDefault name => exact mapState_commit_byRows (byRows_dropDefault sound name)

theorem Sound.perform (sound : t.Sound) (call : Call) : (call.perform t).state.Sound :=
  ((settles_perform sound call).imp fun _ change => change.sound sound).keeps sound

theorem Sound.after (sound : t.Sound) (calls : List Call) : (t.after calls).Sound := by
  induction calls generalizing t with
  | nil => exact sound
  | cons call rest ih => exact ih (sound.perform call)

theorem byRows_after (sound : t.Sound) (calls : List Call) :
    (t.after calls).byRows = t.byRows.after calls := by
  induction calls generalizing t with
  | nil => rfl
  | cons call rest ih =>
    have step : (call.perform t).state.byRows = (t.byRows.perform call).state :=
      congrArg Outcome.state (byRows_perform sound call)
    have tail := ih (sound.perform call)
    rw [step] at tail
    exact tail

/-- A table that any calls have left behind is aligned, reads as what the same calls leave of a
table by rows, and answers and changes under a further call as that table does. -/
theorem refines_rows (name : String) (definitions : List Column.Definition)
    (checked : ∀ d ∈ definitions, ∀ v, d.default = some v → d.check v = .ok ())
    (calls : List Call) :
    let t := (ofDefinitions name definitions).after calls
    t.Aligned ∧ t.byRows = RowTable.after ⟨name, definitions, []⟩ calls ∧
      ∀ call : Call, (call.perform t).mapState byRows = t.byRows.perform call := by
  intro t
  have start : (ofDefinitions name definitions).Sound := by
    apply sound_ofDefinitions
    intro d member v default
    exact Column.Definition.check_eq_ok_iff.mp (checked d member v default)
  have sound : t.Sound := start.after calls
  have read : (ofDefinitions name definitions).byRows = ⟨name, definitions, []⟩ := by
    simp [byRows, ofDefinitions, Table.definitions, rows, Column.empty, Function.comp_def]
  refine ⟨sound.tableAligned, ?_, byRows_perform sound⟩
  rw [byRows_after start, read]

/-- Two columns of one name, one of which can only hold empty texts, and two columns that are added
without defaults. -/
theorem refines_rows_repeated_name :
    let definitions : List Column.Definition :=
      [⟨"a", .varchar 0, some (.text "")⟩, ⟨"A", .integer, none⟩]
    let calls : List Call :=
      [.insertRow ["a", "a"] [.default, .number 7], .insert ["a"] [.string "b"], .insert [] [],
        .removeColumns ["a"], .addColumns [⟨"n", .integer, none⟩, ⟨"s", .varchar 5, none⟩] none]
    let t := (ofDefinitions "twice" definitions).after calls
    t.Aligned ∧ t.byRows = RowTable.after ⟨"twice", definitions, []⟩ calls ∧
      t.byRows.rows = [[.integer 7, .integer 0, .text ""], [.null, .integer 0, .text ""]] := by
  intro definitions calls t
  have checked : ∀ d ∈ definitions, ∀ v, d.default = some v → d.check v = .ok () := by
    decide +kernel
  obtain ⟨aligned, read, _⟩ := refines_rows "twice" definitions checked calls
  exact ⟨aligned, read, by decide +kernel⟩

end ColumnStore.Table
