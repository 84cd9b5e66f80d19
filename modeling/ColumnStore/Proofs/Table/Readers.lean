import ColumnStore.Proofs.Catalog.Tables
import ColumnStore.Proofs.Table.Rows

/-!
# Readers of a table

A table is read by a query, by a column, by a row or as the list of its rows, and each of these is
a walk of its own over the columns. Two of them hide a value that is missing: the list drops a row
that a column does not have, and a query writes NULL in its place. In a sound table no value is
missing, so all of them find the same value, and a NULL is one that was stored.
-/

namespace ColumnStore

/-- The value that a result has in one of its rows, under a column counted from the left. -/
def QueryResult.cell? (r : QueryResult) (row column : Nat) : Option Value :=
  r.rows[row]?.bind (·[column]?)

/-- The column has the value in the row, and it is NULL just if the bitmap says so. -/
def Column.Holds (c : Column) (row : Nat) (value : Value) : Prop :=
  c.get? row = some value ∧ (value = .null ↔ c.nulls[row]? = some true)

theorem Cells.get?_ne_null (cells : Cells) (row : Nat) : cells.get? row ≠ some .null := by
  cases cells <;> simp [get?]

theorem Column.holds_of_get? {c : Column} {row : Nat} {value : Value}
    (h : c.get? row = some value) : c.Holds row value := by
  refine ⟨h, ?_⟩
  rw [get?] at h
  split at h
  · next isNull stored marked present =>
    cases h
    have given : stored ≠ .null := fun same => c.cells.get?_ne_null row (same ▸ present)
    cases isNull <;> simp [given, marked]
  · cases h

namespace Table

variable {t : Table} {names : List String} {all result : QueryResult} {columns : List Column}
  {c : Column} {i row : Nat}

/-- A result with all columns and all rows of a table. -/
structure IsWhole (t : Table) (all : QueryResult) : Prop where
  header : all.columns = t.columnNames
  listed : all.rows = t.rows
  count : all.rows.length = t.rowCount
  rows : ∀ row, all.rows[row]? = t.row? row
  cells : ∀ i c, t.columns[i]? = some c → ∀ row < t.rowCount,
    ∃ value, c.Holds row value ∧ all.cell? row i = some value

/-- A result with a column for each name, where every value is the one that is found in the column
of the name, in the row of the table and in the result that is whole. -/
structure IsProjected (t : Table) (names : List String) (all result : QueryResult) : Prop where
  count : result.rows.length = t.rowCount
  header : result.columns.length = names.length
  width : ∀ values ∈ result.rows, values.length = names.length
  cells : ∀ j name, names[j]? = some name → ∃ i c, t.position? name = some i ∧
    t.columns[i]? = some c ∧ t.column? name = some c ∧
    result.columns[j]? = some c.definition.name ∧
    ∀ row < t.rowCount, ∃ value, c.Holds row value ∧ result.cell? row j = some value ∧
      all.cell? row i = some value ∧ (t.row? row).bind (·[i]?) = some value

theorem column_eq_error_iff {name : String} {fault : Fault} :
    t.column name = .error fault ↔ t.position? name = none ∧ fault = .notFound .column name := by
  rw [column, column?_eq]
  cases found : t.position? name with
  | none => simp [eq_comm]
  | some i =>
    obtain ⟨c, entry, _⟩ := getElem?_of_position (position_eq_ok_iff.mpr found)
    simp [entry]

/-! ## Projections -/

theorem project_cell? (inside : row < t.rowCount) (i : Nat) :
    (t.project columns).cell? row i = columns[i]?.map (·.cell row) := by
  simp only [QueryResult.cell?, project, List.getElem?_map, List.getElem?_range inside,
    Option.map_some, Option.bind_some]
  rfl

/-- A projection shows what its columns hold. -/
theorem exists_holds_of_getElem? (sound : c.Sound t.rowCount) (entry : columns[i]? = some c)
    (inside : row < t.rowCount) :
    ∃ value, c.Holds row value ∧ (t.project columns).cell? row i = some value := by
  refine ⟨c.cell row, Column.holds_of_get? (sound.get?_eq_cell inside), ?_⟩
  rw [project_cell? inside, entry, Option.map_some]

theorem isWhole_project (sound : t.Sound) : t.IsWhole (t.project t.columns) where
  header := rfl
  listed := (rows_eq sound).symm
  count := by simp [project]
  rows := by
    intro row
    by_cases inside : row < t.rowCount
    · rw [row?_eq sound inside]
      simp only [project, List.getElem?_map, List.getElem?_range inside, Option.map_some]
      rfl
    · rw [row?_eq_none (Nat.le_of_not_lt inside), List.getElem?_eq_none]
      simpa [project] using inside
  cells i c entry row inside :=
    exists_holds_of_getElem? (sound c (List.mem_of_getElem? entry)) entry inside

theorem isProjected_project (sound : t.Sound) (found : names.mapM t.column = .ok columns) :
    t.IsProjected names (t.project t.columns) (t.project columns) where
  count := by simp [project]
  header := by simp [project, length_mapM found]
  width := by
    intro values member
    obtain ⟨row, _, rfl⟩ := List.mem_map.mp member
    rw [List.length_map, length_mapM found]
  cells := by
    intro j name named
    obtain ⟨within, rfl⟩ := List.getElem?_eq_some_iff.mp named
    have bound : j < columns.length := by rwa [length_mapM found]
    have denoted : t.column names[j] = .ok columns[j] := (mapM_eq_ok_iff.mp found).get within bound
    have listed : columns[j]? = some columns[j] := List.getElem?_eq_getElem bound
    have present := column_eq_ok_iff.mp denoted
    rw [column?_eq] at present
    obtain ⟨i, position, entry⟩ := Option.bind_eq_some_iff.mp present
    refine ⟨i, columns[j], position, entry, column_eq_ok_iff.mp denoted, ?_, ?_⟩
    · simp only [project, List.getElem?_map, listed, Option.map_some]
    · intro row inside
      obtain ⟨value, holds, shown⟩ :=
        exists_holds_of_getElem? (sound _ (List.mem_of_getElem? entry)) listed inside
      -- the whole result and the row have the same column at its own position
      have whole := isWhole_project sound
      have here : (t.project t.columns).cell? row i = some value := by
        rw [project_cell? inside] at shown ⊢
        rwa [entry, ← listed]
      refine ⟨value, holds, shown, here, ?_⟩
      rw [← whole.rows row]
      exact here

/-! ## Queries -/

theorem select_columns_eq_ok_iff :
    t.select (.columns names) = .ok result ↔
      ∃ columns, names.mapM t.column = .ok columns ∧ t.project columns = result :=
  map_eq_ok_iff

theorem refusal?_column_eq_none_iff {name : String} :
    refusal? (t.column name) = none ↔ (t.position? name).isSome = true := by
  simp only [refusal?_eq_none_iff, column_eq_ok_iff]
  refine ⟨?_, exists_column?_of_position?⟩
  rintro ⟨c, found⟩
  rw [column?_eq] at found
  obtain ⟨i, position, _⟩ := Option.bind_eq_some_iff.mp found
  rw [position]
  rfl

theorem exists_select_columns_iff :
    (∃ result, t.select (.columns names) = .ok result) ↔
      ∀ name ∈ names, (t.position? name).isSome = true := by
  have answered : (∃ result, t.select (.columns names) = .ok result) ↔
      ∃ columns, names.mapM t.column = .ok columns := by
    simp only [select_columns_eq_ok_iff]
    constructor
    · rintro ⟨_, columns, found, _⟩
      exact ⟨columns, found⟩
    · rintro ⟨columns, found⟩
      exact ⟨_, columns, found, rfl⟩
  rw [answered, ← refusal?_eq_none_iff, refusal?_mapM, List.findSome?_eq_none_iff]
  simp only [refusal?_column_eq_none_iff]

/-- A query is refused for the first of its names that denotes no column. -/
theorem select_columns_eq_error_iff {fault : Fault} :
    t.select (.columns names) = .error fault ↔
      ∃ known name later, names = known ++ name :: later ∧
        (∀ other ∈ known, (t.position? other).isSome = true) ∧ t.position? name = none ∧
        fault = .notFound .column name := by
  have refused : t.select (.columns names) = .error fault ↔
      names.mapM t.column = .error fault := by
    rw [select]
    cases names.mapM t.column <;> simp [Except.map]
  rw [refused, ← refusal?_eq_some_iff, refusal?_mapM, List.findSome?_eq_some_iff]
  simp only [refusal?_eq_some_iff, column_eq_error_iff, refusal?_column_eq_none_iff]
  constructor
  · rintro ⟨known, name, later, rfl, ⟨unknown, fault⟩, found⟩
    exact ⟨known, name, later, rfl, found, unknown, fault⟩
  · rintro ⟨known, name, later, rfl, found, unknown, fault⟩
    exact ⟨known, name, later, rfl, ⟨unknown, fault⟩, found⟩

/-- In a table of any catalog the query for everything shows all rows and drops none. The query for
a list of names is answered just if each of them denotes a column, and is otherwise refused for the
first that does not. Its answer has every row, under the stored names of the columns, and each value
of it is what the column, the row and the query for everything have in its place. -/
theorem readers_agree (calls : List Catalog.Call) {t : Table}
    (listed : t ∈ (Catalog.empty.after calls).allTables) :
    ∃ all, t.select .all = .ok all ∧ t.IsWhole all ∧
      ∀ names : List String,
        ((∃ result, t.select (.columns names) = .ok result) ↔
          ∀ name ∈ names, (t.position? name).isSome = true) ∧
        (∀ fault, t.select (.columns names) = .error fault ↔
          ∃ known name later, names = known ++ name :: later ∧
            (∀ other ∈ known, (t.position? other).isSome = true) ∧ t.position? name = none ∧
            fault = .notFound .column name) ∧
        ∀ result, t.select (.columns names) = .ok result → t.IsProjected names all result := by
  have sound : t.Sound := (Catalog.wellFormed_of_allTables calls listed).sound
  refine ⟨t.project t.columns, rfl, isWhole_project sound, fun names =>
    ⟨exists_select_columns_iff, fun _ => select_columns_eq_error_iff, fun result answered => ?_⟩⟩
  obtain ⟨columns, found, rfl⟩ := select_columns_eq_ok_iff.mp answered
  exact isProjected_project sound found

/-- Names out of order, twice and in another case, with a NULL that was stored. -/
theorem readers_agree_repeated_name :
    let definitions : List Column.Definition := [⟨"id", .integer, none⟩, ⟨"Été", .varchar 5, none⟩]
    let calls : List Catalog.Call :=
      [.createDatabase "shop", .useDatabase "shop", .createTable "items" definitions,
        .insertRow "items" ["ID", "ÉTÉ"] [.number 7, .null],
        .insertRow "items" ["id", "été"] [.number 0, .string ""]]
    let t := (ofDefinitions "items" definitions).after
      [.insertRow ["id", "Été"] [.number 7, .null],
        .insertRow ["id", "Été"] [.number 0, .string ""]]
    let names := ["ÉTÉ", "id", "été"]
    t ∈ (Catalog.empty.after calls).allTables ∧
      (∃ all, t.IsWhole all ∧ t.IsProjected names all ⟨["Été", "id", "Été"],
        [[.null, .integer 7, .null], [.text "", .integer 0, .text ""]]⟩) ∧
      t.select (.columns ["id", "gone", "lost"]) = .error (.notFound .column "gone") := by
  intro definitions calls t names
  have listed : t ∈ (Catalog.empty.after calls).allTables := by decide +kernel
  obtain ⟨all, _, whole, each⟩ := readers_agree calls listed
  have answered : t.select (.columns names) = .ok ⟨["Été", "id", "Été"],
      [[.null, .integer 7, .null], [.text "", .integer 0, .text ""]]⟩ := by decide +kernel
  refine ⟨listed, ⟨all, whole, (each names).2.2 _ answered⟩, (each _).2.1 _ |>.mpr ?_⟩
  exact ⟨["id"], "gone", ["lost"], rfl, by decide +kernel, by decide +kernel, rfl⟩

end Table

end ColumnStore
