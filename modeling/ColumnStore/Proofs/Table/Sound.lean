import ColumnStore.Proofs.Column.Sound
import ColumnStore.Table.Call

/-!
# Sound tables

A table is sound when each of its columns is, for the count of rows. Nothing is asked of its
schema: names may be repeated or blank, there may be no columns, and a text may have any declared
length. In a sound table a row that was converted is always stored, so an insert is committed as
a whole or refused as a whole.
-/

namespace ColumnStore.Table

variable {t : Table} {values : List Value} {literals : List Literal} {name : String} {i : Nat}

def Sound (t : Table) : Prop := ∀ c ∈ t.columns, c.Sound t.rowCount

/-- One value for each column, which the column can hold. -/
def Admits (t : Table) (values : List Value) : Prop :=
  List.Forall₂ (fun c v => c.definition.type.Admits v) t.columns values

/-- The table with one more row. -/
def withRow (t : Table) (values : List Value) : Table :=
  { t with columns := List.zipWith Column.appended t.columns values, rowCount := t.rowCount + 1 }

/-- The values of literals in the order of the columns. -/
def converted (t : Table) (literals : List Literal) : Except Fault (List Value) :=
  (t.columns.zip literals).mapM fun (c, literal) => c.definition.convert literal

theorem sound_ofDefinitions {definitions : List Column.Definition}
    (default : ∀ d ∈ definitions, ∀ v, d.default = some v → d.type.Admits v) :
    (ofDefinitions name definitions).Sound := by
  intro c member
  obtain ⟨d, listed, rfl⟩ := List.mem_map.mp member
  exact Column.sound_empty (default d listed)

/-! ## Looking up columns -/

theorem position_eq_ok_iff : t.position name = .ok i ↔ t.position? name = some i := by
  rw [position]
  cases t.position? name <;> simp

theorem column_eq_ok_iff {c : Column} : t.column name = .ok c ↔ t.column? name = some c := by
  rw [column]
  cases t.column? name <;> simp

theorem column?_eq (t : Table) (name : String) :
    t.column? name = (t.position? name).bind (t.columns[·]?) :=
  List.find?_eq_bind_findIdx?_getElem?

/-- A position holds the first column of the name. -/
theorem getElem?_of_position (h : t.position name = .ok i) :
    ∃ c, t.columns[i]? = some c ∧ t.column name = .ok c := by
  have found := position_eq_ok_iff.mp h
  obtain ⟨inside, _⟩ := List.findIdx?_eq_some_iff_getElem.mp found
  refine ⟨t.columns[i], List.getElem?_eq_getElem inside, ?_⟩
  rw [column_eq_ok_iff, column?_eq, found]
  exact List.getElem?_eq_getElem inside

theorem exists_column?_of_position? (known : (t.position? name).isSome = true) :
    ∃ c, t.column? name = some c := by
  obtain ⟨i, position⟩ := Option.isSome_iff_exists.mp known
  obtain ⟨c, _, found⟩ := getElem?_of_position (position_eq_ok_iff.mpr position)
  exact ⟨c, column_eq_ok_iff.mp found⟩

/-- The names that denote columns are known by their positions. -/
theorem mapM_position_eq_ok_iff {names : List String} {targets : List Nat} :
    names.mapM t.position = .ok targets ↔ names.map t.position? = targets.map some := by
  rw [mapM_eq_ok_iff, ← List.forall₂_eq_eq_eq, List.forall₂_map_left_iff,
    List.forall₂_map_right_iff]
  simp only [position_eq_ok_iff]

/-! ## Storing rows -/

theorem pushEach_eq {columns : List Column}
    (storage : ∀ c ∈ columns, c.cells.HasType c.definition.type)
    (admitted : List.Forall₂ (fun c v => c.definition.type.Admits v) columns values) :
    pushEach columns values = ⟨.ok (), List.zipWith Column.appended columns values⟩ := by
  induction admitted with
  | nil => rfl
  | cons first _ ih =>
    have tail := ih fun c member => storage c (by simp [member])
    simp only [pushEach, Column.push_eq (storage _ (by simp)) first, tail, List.zipWith_cons_cons]

theorem admits_of_converted (sound : t.Sound) (full : literals.length = t.columns.length)
    (h : t.converted literals = .ok values) : t.Admits values := by
  refine forall₂_of_mapM_zip h full ?_
  intro c member literal v conversion
  exact Column.Definition.admits_of_convert conversion (sound c member).default

/-- In a sound table the only refusal left to storing a row is that of a conversion. -/
theorem store_eq (sound : t.Sound) (full : literals.length = t.columns.length) :
    t.store literals = .commit t ((t.converted literals).map t.withRow) := by
  rw [store]
  cases h : t.converted literals with
  | error e =>
    simp only [converted] at h
    simp only [h]
    rfl
  | ok values =>
    have pushed := pushEach_eq (fun c member => (sound c member).storage)
      (admits_of_converted sound full h)
    simp only [converted] at h
    simp only [h, pushed]
    rfl

/-- A stored row leaves the schema. -/
theorem definitions_withRow (admitted : t.Admits values) :
    (t.withRow values).definitions = t.definitions := by
  have full : t.columns.length = values.length := admitted.length_eq
  refine List.ext_getElem (by simp [definitions, withRow, full]) fun i inside _ => ?_
  simp [definitions, withRow]

theorem definitions_truncate (t : Table) : t.truncate.definitions = t.definitions := by
  rw [definitions, truncate, List.map_map]
  rfl

theorem Sound.withRow (sound : t.Sound) (admitted : t.Admits values) : (t.withRow values).Sound := by
  intro c member
  obtain ⟨i, inside, rfl⟩ := List.mem_iff_getElem.mp member
  simp only [Table.withRow, List.getElem_zipWith]
  have bounds : i < t.columns.length ∧ i < values.length := by
    simpa [Table.withRow, Nat.lt_min] using inside
  exact (sound _ (List.getElem_mem _)).appended (List.Forall₂.get admitted bounds.1 bounds.2)

section Settles

variable {P : Table → Prop} {names : List String}

theorem settles_store (sound : t.Sound) (full : literals.length = t.columns.length)
    (grown : ∀ values, t.Admits values → P (t.withRow values)) :
    (t.store literals).Settles t P := by
  rw [store_eq sound full]
  refine Outcome.settles_commit fun s h => ?_
  obtain ⟨values, conversion, rfl⟩ := map_eq_ok_iff.mp h
  exact grown values (admits_of_converted sound full conversion)

theorem settles_insertRow (sound : t.Sound)
    (grown : ∀ values, t.Admits values → P (t.withRow values)) :
    (t.insertRow names literals).Settles t P := by
  simp only [insertRow]
  split
  · exact Outcome.settles_error _
  · split
    · exact Outcome.settles_error _
    · split
      · exact Outcome.settles_error _
      · next full => exact settles_store sound (not_not.mp full) grown

theorem settles_insert (sound : t.Sound)
    (grown : ∀ values, t.Admits values → P (t.withRow values)) :
    (t.insert names literals).Settles t P := by
  rw [insert]
  split
  · exact Outcome.settles_error _
  · split
    · exact Outcome.settles_error _
    · exact settles_store sound (by simp) grown

end Settles

end ColumnStore.Table
