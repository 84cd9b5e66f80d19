import ColumnStore.Proofs.Table.Change
import ColumnStore.Table.Rows

/-!
# Rows of a sound table

A sound table read by rows is full: every counted row has a value for every column, and no other
row exists. Insertions and queries do to the rows what they do on a table by rows, with the same
answer. The schema need not have been checked.
-/

namespace ColumnStore

/-! ## Cells -/

namespace Column

variable {c : Column} {d : Definition} {value : Value} {values : List Value} {count row : Nat}

/-- The value of a column in a row that it has. -/
def cell (c : Column) (row : Nat) : Value := (c.get? row).getD .null

theorem Sound.get?_eq_cell (h : c.Sound count) (inside : row < count) :
    c.get? row = some (c.cell row) := by
  have within : row < c.values.length := by rwa [h.length_values]
  rw [cell, Column.get?_eq, List.getElem?_eq_getElem within, Option.getD_some]

/-- The column is the list of its cells. -/
theorem Sound.values_eq (h : c.Sound count) : c.values = (List.range count).map c.cell := by
  refine List.ext_getElem? fun i => ?_
  by_cases inside : i < count
  · rw [← Column.get?_eq, h.get?_eq_cell inside]
    simp [inside]
  · have beyond : c.values.length ≤ i := by
      rw [h.length_values]
      omega
    rw [List.getElem?_eq_none beyond]
    simp [inside]

theorem cell_appended_of_lt (h : c.Sound count) (admitted : c.definition.type.Admits value)
    (inside : row < count) : (c.appended value).cell row = c.cell row := by
  have within : row < c.values.length := by rwa [h.length_values]
  rw [cell, cell, Column.get?_eq, Column.get?_eq, values_appended h admitted,
    List.getElem?_append_left within]

theorem cell_appended_self (h : c.Sound count) (admitted : c.definition.type.Admits value) :
    (c.appended value).cell count = value := by
  rw [cell, Column.get?_eq, values_appended h admitted, ← h.length_values]
  simp

theorem cell_copies (default : ∀ v, d.default = some v → d.type.Admits v)
    (admitted : d.type.Admits value) (inside : row < count) :
    (copies d count value).cell row = value := by
  rw [cell, Column.get?_eq, values_copies default admitted]
  simp [inside]

end Column

namespace Table

variable {t : Table} {name : String} {values : List Value} {literals : List Literal} {i : Nat}

/-! ## The rows of a sound table -/

theorem row?_eq (sound : t.Sound) (inside : i < t.rowCount) :
    t.row? i = some (t.columns.map (·.cell i)) := by
  have each {columns : List Column} (listed : ∀ c ∈ columns, c.Sound t.rowCount) :
      columns.mapM (·.get? i) = some (columns.map (·.cell i)) := by
    induction columns with
    | nil => rfl
    | cons c rest ih =>
      have first := (listed c (by simp)).get?_eq_cell inside
      have tail := ih fun other member => listed other (by simp [member])
      rw [List.mapM_cons, first, tail]
      rfl
  rw [row?, if_pos inside, each sound]

theorem row?_eq_none (beyond : t.rowCount ≤ i) : t.row? i = none := by
  rw [row?, if_neg (by omega)]

theorem rows_eq (sound : t.Sound) :
    t.rows = (List.range t.rowCount).map fun i => t.columns.map (·.cell i) := by
  have each : ∀ i ∈ List.range t.rowCount, t.row? i = some (t.columns.map (·.cell i)) := by
    intro i member
    exact row?_eq sound (List.mem_range.mp member)
  rw [rows, List.filterMap_congr each, List.filterMap_eq_map']

/-- What is read of a sound table whose cells are known. -/
theorem byRows_eq {definitions : List Column.Definition} {f : Nat → Row} (sound : t.Sound)
    (schema : t.definitions = definitions)
    (each : ∀ i < t.rowCount, t.columns.map (·.cell i) = f i) :
    t.byRows = ⟨t.name, definitions, (List.range t.rowCount).map f⟩ := by
  have rows : t.rows = (List.range t.rowCount).map f := by
    rw [rows_eq sound]
    exact List.map_congr_left fun i member => each i (List.mem_range.mp member)
  rw [byRows, schema, rows]

/-! ## Names -/

theorem byRows_columnNames (t : Table) : t.byRows.columnNames = t.columnNames := by
  rw [RowTable.columnNames, byRows, definitions, List.map_map]
  rfl

theorem byRows_position? (t : Table) (name : String) :
    t.byRows.position? name = t.position? name := by
  rw [RowTable.position?, byRows, definitions, List.findIdx?_map]
  rfl

theorem byRows_position (t : Table) : t.byRows.position = t.position := by
  funext name
  cases found : t.position? name <;>
    simp only [RowTable.position, byRows_position?, position, found]

theorem byRows_definition (t : Table) (name : String) :
    t.byRows.definition name = (t.column name).map (·.definition) := by
  simp only [RowTable.definition, byRows, definitions, List.find?_map, column, column?]
  have same : ((fun d => d.isNamed name) ∘ fun c : Column => c.definition) =
      fun c => c.definition.isNamed name := rfl
  rw [same]
  cases t.columns.find? fun c => c.definition.isNamed name <;> rfl

/-! ## Rows that come and go -/

theorem cells_appended_of_lt {columns : List Column} {count : Nat}
    (sound : ∀ c ∈ columns, c.Sound count)
    (admitted : List.Forall₂ (fun c v => c.definition.type.Admits v) columns values)
    (inside : i < count) :
    (List.zipWith Column.appended columns values).map (·.cell i) = columns.map (·.cell i) := by
  induction admitted with
  | nil => rfl
  | cons first _ ih =>
    have here := Column.cell_appended_of_lt (sound _ (by simp)) first inside
    have tail := ih fun c member => sound c (by simp [member])
    rw [List.zipWith_cons_cons, List.map_cons, List.map_cons, here, tail]

theorem cells_appended_self {columns : List Column} {count : Nat}
    (sound : ∀ c ∈ columns, c.Sound count)
    (admitted : List.Forall₂ (fun c v => c.definition.type.Admits v) columns values) :
    (List.zipWith Column.appended columns values).map (·.cell count) = values := by
  induction admitted with
  | nil => rfl
  | cons first _ ih =>
    have here := Column.cell_appended_self (sound _ (by simp)) first
    have tail := ih fun c member => sound c (by simp [member])
    rw [List.zipWith_cons_cons, List.map_cons, here, tail]

theorem byRows_withRow (sound : t.Sound) (admitted : t.Admits values) :
    (t.withRow values).byRows = { t.byRows with rows := t.rows ++ [values] } := by
  have rows : (t.withRow values).rows = t.rows ++ [values] := by
    have old : ∀ i ∈ List.range t.rowCount,
        (t.withRow values).columns.map (·.cell i) = t.columns.map (·.cell i) := by
      intro i member
      exact cells_appended_of_lt sound admitted (List.mem_range.mp member)
    have last : (t.withRow values).columns.map (·.cell t.rowCount) = values :=
      cells_appended_self sound admitted
    have count : (t.withRow values).rowCount = t.rowCount + 1 := rfl
    rw [rows_eq (sound.withRow admitted), count, List.range_succ, List.map_append,
      List.map_congr_left old, List.map_singleton, last, rows_eq sound]
  rw [byRows, definitions_withRow admitted, rows]
  rfl

theorem mapM_convert_definitions (t : Table) (literals : List Literal) :
    ((t.definitions.zip literals).mapM fun (d, literal) => d.convert literal) =
      t.converted literals := by
  rw [definitions, List.zip_map_left, List.mapM_map]
  rfl

theorem byRows_store (sound : t.Sound) (full : literals.length = t.columns.length) :
    (t.store literals).mapState byRows = .commit t.byRows (t.byRows.store literals) := by
  rw [store_eq sound full, Outcome.mapState_commit]
  have same := mapM_convert_definitions t literals
  cases conversion : t.converted literals with
  | error e =>
    rw [conversion] at same
    simp only [RowTable.store, byRows, same]
    rfl
  | ok values =>
    rw [conversion] at same
    have stored := byRows_withRow sound (admits_of_converted sound full conversion)
    simp only [Except.map, stored]
    simp only [RowTable.store, byRows, same]
    rfl

theorem all_named_byRows (t : Table) (names : List String) :
    ((t.byRows.definitions.zip names).all fun (d, name) => d.isNamed name) =
      (t.columns.zip names).all fun (c, name) => c.definition.isNamed name := by
  rw [byRows, definitions, List.zip_map_left, List.all_map]
  rfl

theorem byRows_insertRow (sound : t.Sound) (names : List String) :
    (t.insertRow names literals).mapState byRows =
      .commit t.byRows (t.byRows.insertRow names literals) := by
  have width : t.byRows.definitions.length = t.columns.length := List.length_map _
  simp only [insertRow, RowTable.insertRow, width, all_named_byRows, byRows_columnNames]
  split
  · rfl
  · split
    · rfl
    · split
      · rfl
      · next full => exact byRows_store sound (not_not.mp full)

theorem byRows_assign (t : Table) (names : List String) :
    t.byRows.assign names = t.assign names := by
  rw [RowTable.assign, byRows_position, byRows_columnNames]
  rfl

theorem byRows_insert (sound : t.Sound) (names : List String) :
    (t.insert names literals).mapState byRows =
      .commit t.byRows (t.byRows.insert names literals) := by
  rw [insert, RowTable.insert]
  split
  · rfl
  · simp only [byRows_assign]
    cases t.assign names [] (names.zip literals) with
    | error e => rfl
    | ok assigned =>
      refine (byRows_store sound (by simp)).trans ?_
      simp only [byRows, definitions, List.zipIdx_map, List.map_map]
      rfl

theorem byRows_truncate (t : Table) : t.truncate.byRows = t.byRows.truncate := by
  rw [byRows, definitions_truncate]
  rfl

/-! ## Queries -/

theorem column_of_position_error {e : Fault} (h : t.position name = .error e) :
    t.column name = .error e := by
  rw [position] at h
  rw [column, column?_eq]
  cases found : t.position? name with
  | none =>
    rw [found] at h
    cases h
    rfl
  | some i => simp [found] at h

/-- The columns of a list of names stand at the positions of the names. -/
theorem mapM_column_eq (t : Table) (names : List String) :
    names.mapM t.column =
      (names.mapM t.position).map fun chosen => chosen.filterMap (t.columns[·]?) := by
  induction names with
  | nil => rfl
  | cons name rest ih =>
    rw [List.mapM_cons, List.mapM_cons, ih]
    cases position : t.position name with
    | error e =>
      rw [column_of_position_error position]
      rfl
    | ok i =>
      obtain ⟨c, entry, found⟩ := getElem?_of_position position
      rw [found]
      cases rest.mapM t.position with
      | error e => rfl
      | ok chosen => simp [bind, Except.bind, pure, Except.pure, Except.map, entry]

theorem byRows_select (sound : t.Sound) (projection : Projection) :
    t.byRows.select projection = t.select projection := by
  cases projection with
  | all =>
    have rows : t.byRows.rows = (t.project t.columns).rows := rows_eq sound
    rw [RowTable.select, byRows_columnNames, rows]
    rfl
  | columns names =>
    rw [RowTable.select, byRows_position, select, mapM_column_eq]
    cases names.mapM t.position with
    | error e => rfl
    | ok chosen =>
      have rows : t.byRows.rows =
          (List.range t.rowCount).map fun i => t.columns.map (·.cell i) := rows_eq sound
      simp only [byRows_columnNames, rows, columnNames, List.map_map, filterMap_getElem?_map,
        Function.comp_def]
      rfl

end Table

end ColumnStore
