import ColumnStore.Proofs.Table.Addition

/-!
# Columns that are removed

Removal finds the positions of the names and keeps the other positions. In a table whose names
differ this keeps the columns that bear none of the names, however often, in which order and in
which case they are given; so what was added can be removed again by its names.
-/

namespace ColumnStore.Table

variable {t t' : Table} {names : List String} {name : String} {i : Nat}

/-- The columns that bear none of the names. -/
def spared (t : Table) (names : List String) : List Column :=
  t.columns.filter fun c => c.folded ∉ names.map Text.fold

/-- A name denotes a column exactly if one bears it. -/
theorem isSome_position?_iff :
    (t.position? name).isSome = true ↔ Text.fold name ∈ t.columns.map Column.folded := by
  rw [position?, List.findIdx?_isSome, List.any_eq_true, List.mem_map]
  simp only [Column.Definition.isNamed_iff, Column.folded]

theorem folded_of_position? (h : t.position? name = some i) :
    (t.columns.map Column.folded)[i]? = some (Text.fold name) := by
  obtain ⟨inside, named, _⟩ := List.findIdx?_eq_some_iff_getElem.mp h
  rw [List.getElem?_map, List.getElem?_eq_getElem inside, Option.map_some, Column.folded,
    Column.Definition.isNamed_iff.mp named]

theorem position?_of_fold {a b : String} (same : Text.fold a = Text.fold b) :
    t.position? a = t.position? b := by
  simp only [position?, Column.Definition.isNamed, same]

/-- Of the positions of the names, those that are kept hold the columns that bear none. -/
theorem kept_eq_spared (h : t.WellFormed) {doomed : List Nat}
    (located : names.mapM t.position = .ok doomed) :
    (t.columns.zipIdx.filter fun (_, i) => !doomed.contains i).map (·.1) = t.spared names := by
  have positions := mapM_position_eq_ok_iff.mp located
  have chosen : ∀ pair ∈ t.columns.zipIdx,
      (!doomed.contains pair.2) = decide (pair.1.folded ∉ names.map Text.fold) := by
    rintro ⟨c, i⟩ member
    have entry := List.mem_zipIdx_iff_getElem?.mp member
    have denoted : i ∈ doomed ↔ c.folded ∈ names.map Text.fold := by
      have listed : i ∈ doomed ↔ some i ∈ names.map t.position? := by simp [positions]
      rw [listed, List.mem_map, List.mem_map]
      refine exists_congr fun name => and_congr_right fun _ => ?_
      rw [h.position?_eq_some_iff entry, Column.Definition.isNamed_iff, Column.folded]
      exact eq_comm
    rw [Bool.eq_iff_iff]
    simp [denoted]
  have whole : (t.columns.zipIdx.map (·.1)) = t.columns := List.zipIdx_map_fst 0 t.columns
  rw [spared, List.filter_congr chosen]
  conv_rhs => rw [← whole, List.filter_map]
  rfl

/-- Removal is accepted exactly if every name denotes a column and some column is spared. -/
theorem removeColumns_eq_ok_iff (h : t.WellFormed) :
    t.removeColumns names = .ok t' ↔
      (∀ name ∈ names, Text.fold name ∈ t.columns.map Column.folded) ∧ t.spared names ≠ [] ∧
        t' = { t with columns := t.spared names } := by
  have known_iff : (∃ doomed, names.mapM t.position = .ok doomed) ↔
      ∀ name ∈ names, Text.fold name ∈ t.columns.map Column.folded := by
    simp only [← isSome_position?_iff]
    constructor
    · rintro ⟨doomed, located⟩ name member
      obtain ⟨i, _, found⟩ := exists_right_of_forall₂ (mapM_eq_ok_iff.mp located) member
      rw [position_eq_ok_iff.mp found]
      rfl
    · exact exists_positions
  rw [removeColumns, bind_eq_ok_iff, ← known_iff]
  simp only [guard_eq_ok_iff, pure_eq_ok_iff, List.isEmpty_iff]
  constructor
  · rintro ⟨doomed, located, remaining, rfl⟩
    rw [kept_eq_spared h located] at remaining ⊢
    exact ⟨⟨doomed, located⟩, remaining, rfl⟩
  · rintro ⟨⟨doomed, located⟩, remaining, rfl⟩
    rw [← kept_eq_spared h located] at remaining ⊢
    exact ⟨doomed, located, remaining, rfl⟩

/-! ## What was added -/

/-- The new columns have the names of their definitions. -/
theorem folded_addedColumns {new : List Column.Definition} {defaults : Option (List Literal)}
    (provided : Provides new defaults) (count : Nat) :
    (addedColumns count new defaults).map Column.folded = new.map fun d => Text.fold d.name := by
  cases defaults with
  | none =>
    rw [addedColumns, List.map_map]
    refine List.map_congr_left fun d _ => ?_
    simp [Column.folded]
  | some literals =>
    have first : (new.zip literals).map Prod.fst = new :=
      List.map_fst_zip (Nat.le_of_eq provided.1.symm)
    conv_rhs => rw [← first, List.map_map]
    rw [addedColumns, List.map_map]
    refine List.map_congr_left fun pair _ => ?_
    simp [Column.folded, preset]

/-- Names that are those of the new columns up to case spare the old ones and no other. -/
theorem removeColumns_of_addColumns {new : List Column.Definition}
    {defaults : Option (List Literal)} (h : t.WellFormed)
    (added : t.addColumns new defaults = .ok t')
    (named : ∀ f, f ∈ names.map Text.fold ↔ f ∈ new.map fun d => Text.fold d.name) :
    t'.removeColumns names = .ok t := by
  have h' : t'.WellFormed := h.change (change_of_addColumns added)
  obtain ⟨joinable, provided, rfl⟩ := addColumns_eq_ok_iff.mp added
  have folds := folded_addedColumns provided t.rowCount
  have old : ∀ c ∈ t.columns, c.folded ∉ names.map Text.fold := by
    intro c member listed
    have before : c.folded ∈ t.definitions.map fun d => Text.fold d.name :=
      folded_columns t ▸ List.mem_map_of_mem member
    exact joinable.fresh before ((named _).mp listed)
  have fresh : ∀ c ∈ addedColumns t.rowCount new defaults, c.folded ∈ names.map Text.fold := by
    intro c member
    exact (named _).mpr (folds ▸ List.mem_map_of_mem member)
  have kept : spared { t with columns := t.columns ++ addedColumns t.rowCount new defaults } names
      = t.columns := by
    rw [spared, List.filter_append, List.filter_eq_self.mpr (by simpa using old),
      List.filter_eq_nil_iff.mpr (by simpa using fresh), List.append_nil]
  refine (removeColumns_eq_ok_iff h').mpr ⟨?_, ?_, ?_⟩
  · intro name member
    have listed := (named _).mp (List.mem_map_of_mem member)
    rw [List.map_append, folds]
    exact List.mem_append_right _ listed
  · rw [kept]
    exact h.inhabited
  · rw [kept]

/-- Whatever columns were added to a table of a catalog, with or without defaults, removing them by
their names gives the table back. The names may come in any order and any case, and repeatedly. -/
theorem removal_undoes_addition (calls : List Catalog.Call)
    (listed : t ∈ (Catalog.empty.after calls).allTables) {new : List Column.Definition}
    {defaults : Option (List Literal)}
    (added : (Call.addColumns new defaults).perform t = ⟨.ok none, t'⟩)
    (named : ∀ f, f ∈ names.map Text.fold ↔ f ∈ new.map fun d => Text.fold d.name) :
    (Call.removeColumns names).perform t' = ⟨.ok none, t⟩ := by
  have h := Catalog.wellFormed_of_allTables calls listed
  have grown := done_commit_eq_iff.mp added
  exact done_commit_eq_iff.mpr (removeColumns_of_addColumns h grown named)

/-- Columns that were added to a table with rows are removed in the other order, in another case
and one of them twice. -/
theorem removal_undoes_addition_items :
    let definitions : List Column.Definition :=
      [⟨"id", .integer, none⟩, ⟨"code", .varchar 4, some (.text "0007")⟩]
    let calls : List Catalog.Call := [.createDatabase "shop", .useDatabase "shop",
      .createTable "items" definitions,
      .insert "items" ["id"] [.number (-1)], .insert "items" ["code"] [.null]]
    let t := (ofDefinitions "items" definitions).after
      [.insert ["id"] [.number (-1)], .insert ["code"] [.null]]
    let new : List Column.Definition := [⟨"ÉTAT", .varchar 3, none⟩, ⟨"qty", .integer, none⟩]
    let o := (Call.addColumns new (some [.string "new", .number 5])).perform t
    t ∈ (Catalog.empty.after calls).allTables ∧ o.answer = .ok none ∧ o.state ≠ t ∧
      (Call.removeColumns ["Qty", "état", "QTY"]).perform o.state = ⟨.ok none, t⟩ := by
  intro definitions calls t new o
  have listed : t ∈ (Catalog.empty.after calls).allTables := by decide +kernel
  have answered : o.answer = .ok none := by decide +kernel
  have folds : ["Qty", "état", "QTY"].map Text.fold =
      ["qty".toList, "état".toList, "qty".toList] := by decide +kernel
  have folds' : (new.map fun d => Text.fold d.name) = ["état".toList, "qty".toList] := by
    decide +kernel
  have added : o = ⟨.ok none, o.state⟩ := by rw [← answered]
  refine ⟨listed, answered, by decide +kernel, removal_undoes_addition calls listed added ?_⟩
  intro f
  rw [folds, folds']
  simp [or_comm]

end ColumnStore.Table
