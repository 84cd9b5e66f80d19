import ColumnStore.Proofs.Table.Rows
import ColumnStore.Proofs.Table.WellFormed

/-!
# Inserting into all columns

Names that denote different columns are assigned their literals as they stand. When they denote
all columns in order, nothing is left out and the literals are stored as they are; a stored row,
written as literals, is then stored once more.
-/

namespace ColumnStore

/-- A key that is bound once is looked up as what it is bound to. -/
theorem lookup_of_mem {α β : Type} [BEq α] [LawfulBEq α] {entries : List (α × β)} {a : α} {b : β}
    (distinct : (entries.map Prod.fst).Nodup) (member : (a, b) ∈ entries) :
    entries.lookup a = some b := by
  obtain ⟨before, later, rfl⟩ := List.append_of_mem member
  refine List.lookup_eq_some_iff.mpr ⟨before, later, rfl, fun entry earlier => ?_⟩
  rw [List.map_append, List.map_cons, List.nodup_middle, List.nodup_cons] at distinct
  have apart : a ≠ entry.1 := by
    rintro rfl
    exact distinct.1 (List.mem_append_left _ (List.mem_map.mpr ⟨entry, earlier, rfl⟩))
  simpa using apart

theorem lookup_eq_some_iff_mem {α β : Type} [BEq α] [LawfulBEq α] {entries : List (α × β)} {a : α}
    {b : β} (distinct : (entries.map Prod.fst).Nodup) :
    entries.lookup a = some b ↔ (a, b) ∈ entries := by
  refine ⟨fun found => ?_, lookup_of_mem distinct⟩
  obtain ⟨before, later, rfl, _⟩ := List.lookup_eq_some_iff.mp found
  exact List.mem_append_right _ List.mem_cons_self

/-- A value of the right type is what its literal is converted to. -/
theorem Column.Definition.convert_literal {d : Definition} {value : Value}
    (admitted : d.type.Admits value) : d.convert value.literal = .ok value := by
  unfold convert
  cases value with
  | null => rfl
  | integer n =>
    cases kind : d.type with
    | integer => rfl
    | varchar limit => simp [kind, ColumnType.Admits] at admitted
  | text s =>
    have checked := check_eq_ok_iff.mpr admitted
    cases kind : d.type with
    | integer => simp [kind, ColumnType.Admits] at admitted
    | varchar limit => simp [Value.literal, checked, Except.map]

namespace Table

variable {t : Table} {names : List String} {literals : List Literal} {row : Row}

/-! ## Assigning literals -/

/-- Names of different columns, none of which has its literal already. -/
theorem assign_of_positions {given : List String} {positions : List Nat}
    {assigned : List (Nat × Literal)} (found : given.mapM t.position = .ok positions)
    (full : literals.length = given.length)
    (distinct : (positions ++ assigned.map Prod.fst).Nodup) :
    t.assign names assigned (given.zip literals) =
      .ok ((positions.zip literals).reverse ++ assigned) := by
  induction given generalizing positions literals assigned with
  | nil =>
    cases found
    rfl
  | cons name given ih =>
    obtain ⟨position, others, first, later, rfl⟩ := mapM_cons_eq_ok_iff.mp found
    obtain ⟨literal, literals, rfl⟩ := List.exists_cons_of_length_eq_add_one full
    have free : assigned.lookup position = none := by
      refine List.lookup_eq_none_iff.mpr fun entry member => ?_
      have apart : position ≠ entry.1 := by
        rintro rfl
        exact (List.nodup_cons.mp distinct).1
          (List.mem_append_right _ (List.mem_map_of_mem member))
      simpa using apart
    have rest : (others ++ ((position, literal) :: assigned).map Prod.fst).Nodup :=
      List.nodup_middle.mpr distinct
    have tail := ih later (by simpa using full) rest
    simp only [List.zip_cons_cons, assign_cons, first, ok_bind_eq, free, Option.isSome_none,
      Bool.false_eq_true, if_false, tail, List.reverse_cons, List.append_assoc,
      List.singleton_append]

/-! ## Names of all columns -/

/-- The names of all columns in the order of the table, in any case. -/
def NamesAll (t : Table) (names : List String) : Prop :=
  names.map Text.fold = t.columnNames.map Text.fold

theorem namesAll_iff_forall₂ :
    t.NamesAll names ↔
      List.Forall₂ (fun (c : Column) name => c.definition.isNamed name = true) t.columns names := by
  rw [NamesAll, eq_comm, columnNames, List.map_map, ← List.forall₂_eq_eq_eq,
    List.forall₂_map_left_iff, List.forall₂_map_right_iff]
  simp only [Column.Definition.isNamed_iff, Function.comp_apply]

theorem NamesAll.length (all : t.NamesAll names) : names.length = t.columns.length :=
  (namesAll_iff_forall₂.mp all).length_eq.symm

/-- The names of all columns in order are found at all positions in order. -/
theorem WellFormed.position_of_namesAll (h : t.WellFormed) (all : t.NamesAll names) :
    names.mapM t.position = .ok (List.range t.columns.length) := by
  have each := List.forall₂_iff_get.mp (namesAll_iff_forall₂.mp all)
  refine mapM_eq_ok_iff.mpr (List.forall₂_iff_get.mpr ⟨by simp [all.length], ?_⟩)
  intro i inside _
  have bound : i < t.columns.length := all.length ▸ inside
  rw [position_eq_ok_iff]
  simpa using (h.position?_eq_some_iff (List.getElem?_eq_getElem bound)).mpr (each.2 i bound inside)

/-- Names of all columns in order leave no column out. -/
theorem insert_eq_store (found : names.mapM t.position = .ok (List.range t.columns.length))
    (full : literals.length = t.columns.length) : t.insert names literals = t.store literals := by
  have count : names.length = t.columns.length := by
    simpa using (length_mapM found).symm
  have assigned : t.assign names [] (names.zip literals) =
      .ok (((List.range t.columns.length).zip literals).reverse ++ []) :=
    assign_of_positions found (full.trans count.symm) (by simpa using List.nodup_range)
  rw [insert, if_neg (by omega), assigned]
  refine congrArg t.store (List.ext_getElem (by simp [full]) fun i inside within => ?_)
  have bound : i < t.columns.length := by simpa using inside
  have keys : (((List.range t.columns.length).zip literals).reverse.map Prod.fst).Nodup := by
    rw [List.map_reverse, List.map_fst_zip (by simp [full]), List.nodup_reverse]
    exact List.nodup_range
  have entry : (i, literals[i]) ∈ ((List.range t.columns.length).zip literals).reverse := by
    rw [List.mem_reverse]
    refine List.mem_iff_getElem.mpr ⟨i, by simpa [full] using bound, ?_⟩
    simp
  simp [lookup_of_mem keys entry]

/-! ## Storing a row again -/

theorem admits_of_mem_rows (sound : t.Sound) (member : row ∈ t.rows) : t.Admits row := by
  rw [rows_eq sound] at member
  obtain ⟨i, inside, rfl⟩ := List.mem_map.mp member
  rw [Admits, List.forall₂_map_right_iff, List.forall₂_same]
  intro c listed
  have present := (sound c listed).get?_eq_cell (List.mem_range.mp inside)
  rw [Column.get?_eq] at present
  exact (sound c listed).admitted _ (List.mem_of_getElem? present)

theorem converted_literals (admitted : t.Admits row) :
    t.converted (row.map Value.literal) = .ok row := by
  have each {columns : List Column} {values : List Value}
      (admitted : List.Forall₂ (fun c v => c.definition.type.Admits v) columns values) :
      ((columns.zip (values.map Value.literal)).mapM fun pair =>
        pair.1.definition.convert pair.2) = .ok values := by
    induction admitted with
    | nil => rfl
    | cons first _ ih =>
      exact mapM_cons_eq_ok_iff.mpr
        ⟨_, _, Column.Definition.convert_literal first, ih, rfl⟩
  exact each admitted

/-- The literals of a row that the columns can hold are inserted as that row. -/
theorem insert_literals (h : t.WellFormed) (admitted : t.Admits row) :
    t.insert t.columnNames (row.map Value.literal) = ⟨.ok (), t.withRow row⟩ := by
  have full : (row.map Value.literal).length = t.columns.length := by
    simpa using admitted.length_eq.symm
  rw [insert_eq_store (h.position_of_namesAll rfl) full, store_eq h.sound full,
    converted_literals admitted]
  rfl

end Table

end ColumnStore
