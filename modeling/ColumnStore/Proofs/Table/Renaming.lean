import ColumnStore.Proofs.Table.Readers
import ColumnStore.Proofs.Table.Removal
import ColumnStore.Table.Spelling

/-!
# Renaming a column

A renamed column stays in its place with its values, so it is found under the new name where it was
found under the old one. Its former spelling is valid and free again, and to give it back restores
the table.
-/

namespace ColumnStore

open Text (SameName)

/-- The answer with the column of one name shown under another. -/
def QueryResult.relabelled (r : QueryResult) (old new : String) : QueryResult :=
  { r with columns := r.columns.map fun name => if name = old then new else name }

namespace Table

variable {t t' : Table} {old new name name' : String} {c column : Column} {i j : Nat}

/-- The name for a column after one of them was renamed. -/
def renamedTo (old new name : String) : String := if SameName name old then new else name

/-- A query by names has the same rows in both tables, where the second is asked for the new name,
in any case, in place of the old one and shows it in place of the stored one. -/
def AnswersAlike (t t' : Table) (old new stored : String) : Prop :=
  ∀ names names' result,
    List.Forall₂ (fun name name' => SameName name' (renamedTo old new name)) names names' →
    t.select (.columns names) = .ok result →
    t'.select (.columns names') = .ok (result.relabelled stored new)

def withColumnName (t : Table) (position : Nat) (name : String) : Table :=
  { t with columns := t.columns.modify position (·.named name) }

/-- The new name may be free or denote the column already. -/
theorem renameColumn_eq_ok_iff :
    t.renameColumn old new = .ok t' ↔ ∃ i, t.position? old = some i ∧ isValidName new = true ∧
      (∀ j, t.position? new = some j → j = i) ∧ t.withColumnName i new = t' := by
  have free (i : Nat) : ¬ (t.position? new).any (· != i) = true ↔
      ∀ j, t.position? new = some j → j = i := by
    cases t.position? new <;> simp
  rw [renameColumn, bind_eq_ok_iff]
  refine exists_congr fun i => ?_
  rw [position_eq_ok_iff, check_bind_eq_ok_iff, checkName_eq_ok_iff, guard_eq_ok_iff, free,
    pure_eq_ok_iff]
  rfl

/-! ## A column under a new name -/

theorem getElem?_withColumnName (t : Table) (i j : Nat) (name : String) :
    (t.withColumnName i name).columns[j]? =
      t.columns[j]?.map fun c => if i = j then c.named name else c := by
  simp only [withColumnName, List.getElem?_modify, Option.map_eq_map]

/-- Columns are found in their old places under their new names. -/
theorem WellFormed.position?_withColumnName (h : t.WellFormed)
    (next : (t.withColumnName i new).WellFormed) (here : t.position? old = some i)
    (spelled : SameName name' (renamedTo old new name)) (found : t.position? name = some j) :
    (t.withColumnName i new).position? name' = some j := by
  obtain ⟨c, entry, -⟩ := getElem?_of_position (position_eq_ok_iff.mpr found)
  have moved := getElem?_withColumnName t i j new
  rw [entry, Option.map_some] at moved
  refine (next.position?_eq_some_iff moved).mpr ?_
  have named : SameName c.definition.name name :=
    Column.Definition.isNamed_iff.mp ((h.position?_eq_some_iff entry).mp found)
  rw [Column.Definition.isNamed_iff]
  by_cases same : SameName name old
  · obtain rfl : i = j := Option.some.inj (here.symm.trans (position?_of_fold same ▸ found))
    rw [renamedTo, if_pos same] at spelled
    rw [if_pos rfl]
    exact spelled.symm
  · have other : i ≠ j := by
      rintro rfl
      have bears := Column.Definition.isNamed_iff.mp ((h.position?_eq_some_iff entry).mp here)
      exact same (named.symm.trans bears)
    rw [renamedTo, if_neg same] at spelled
    rw [if_neg other]
    exact named.trans spelled.symm

/-- The column that was renamed is the one that had its name; the others are found as they were. -/
theorem WellFormed.column?_withColumnName (h : t.WellFormed)
    (next : (t.withColumnName i new).WellFormed) (here : t.position? old = some i)
    (stored : t.columns[i]? = some column) (spelled : SameName name' (renamedTo old new name))
    (found : t.column? name = some c) :
    (t.withColumnName i new).column? name' =
      some (if c.definition.name = column.definition.name then c.named new else c) := by
  rw [column?_eq] at found
  obtain ⟨j, position, entry⟩ := Option.bind_eq_some_iff.mp found
  have same : i = j ↔ c.definition.name = column.definition.name := by
    constructor
    · rintro rfl
      rw [Option.some.inj (entry.symm.trans stored)]
    · intro called
      have denoted : column.definition.isNamed c.definition.name = true :=
        Column.Definition.isNamed_iff.mpr (congrArg Text.fold called.symm)
      have itself : c.definition.isNamed c.definition.name = true :=
        Column.Definition.isNamed_iff.mpr rfl
      exact Option.some.inj (((h.position?_eq_some_iff stored).mpr denoted).symm.trans
        ((h.position?_eq_some_iff entry).mpr itself))
  rw [column?_eq, h.position?_withColumnName next here spelled position, Option.bind_some,
    getElem?_withColumnName, entry, Option.map_some]
  simp only [same]

theorem project_relabelled (columns : List Column) (i : Nat) (stored new : String) :
    (t.withColumnName i new).project
        (columns.map fun c => if c.definition.name = stored then c.named new else c) =
      (t.project columns).relabelled stored new := by
  simp only [project, QueryResult.relabelled, withColumnName, List.map_map, QueryResult.mk.injEq]
  constructor
  · refine List.map_congr_left fun c _ => ?_
    simp only [Function.comp_apply]
    split <;> rfl
  · refine List.map_congr_left fun row _ => List.map_congr_left fun c _ => ?_
    simp only [Function.comp_apply]
    split <;> rfl

/-- What is selected under the new name has the rows that it had under the old one. -/
theorem WellFormed.answersAlike_withColumnName (h : t.WellFormed)
    (next : (t.withColumnName i new).WellFormed) (here : t.position? old = some i)
    (stored : t.columns[i]? = some column) :
    t.AnswersAlike (t.withColumnName i new) old new column.definition.name := by
  intro names names' result spelled answered
  obtain ⟨columns, found, rfl⟩ := select_columns_eq_ok_iff.mp answered
  refine select_columns_eq_ok_iff.mpr ⟨_, ?_, project_relabelled columns i _ new⟩
  clear answered
  induction spelled generalizing columns with
  | nil =>
    cases found
    rfl
  | cons same _ ih =>
    obtain ⟨c, rest, first, later, rfl⟩ := mapM_cons_eq_ok_iff.mp found
    refine mapM_cons_eq_ok_iff.mpr ⟨_, _, ?_, ih rest later, rfl⟩
    exact column_eq_ok_iff.mpr
      (h.column?_withColumnName next here stored same (column_eq_ok_iff.mp first))

/-! ## The former name -/

/-- No other column has taken the former spelling. -/
theorem WellFormed.renameColumn_restored (h : t.WellFormed)
    (next : (t.withColumnName i new).WellFormed) (here : t.position? old = some i)
    (stored : t.columns[i]? = some column) :
    (t.withColumnName i new).renameColumn new column.definition.name = .ok t := by
  have restored : (t.withColumnName i new).withColumnName i column.definition.name = t := by
    rw [withColumnName, withColumnName, modify_modify_of_entry stored rfl]
  refine renameColumn_eq_ok_iff.mpr ⟨i, ?_, h.columnNames column (List.mem_of_getElem? stored), ?_,
    restored⟩
  · exact h.position?_withColumnName next here (by simp [renamedTo, SameName]) here
  · intro j found
    by_contra other
    have former : t.position? column.definition.name = some i :=
      (h.position?_eq_some_iff stored).mpr (Column.Definition.isNamed_iff.mpr rfl)
    obtain ⟨c, entry, -⟩ := getElem?_of_position (position_eq_ok_iff.mpr found)
    have named := (next.position?_eq_some_iff entry).mp found
    simp only [getElem?_withColumnName, if_neg (Ne.symm other), Option.map_id'] at entry
    exact other (Option.some.inj (((h.position?_eq_some_iff entry).mpr named).symm.trans former))

/-- A renaming that is accepted leaves the rows of every query and can be taken back. -/
theorem WellFormed.renamed (h : t.WellFormed) (renamed : t.renameColumn old new = .ok t') :
    ∃ column, t.column? old = some column ∧ t.AnswersAlike t' old new column.definition.name ∧
      t'.renameColumn new column.definition.name = .ok t := by
  have next : t'.WellFormed := h.change (change_of_renameColumn renamed)
  obtain ⟨i, here, _, _, rfl⟩ := renameColumn_eq_ok_iff.mp renamed
  obtain ⟨column, stored, found⟩ := getElem?_of_position (position_eq_ok_iff.mpr here)
  exact ⟨column, column_eq_ok_iff.mp found, h.answersAlike_withColumnName next here stored,
    h.renameColumn_restored next here stored⟩

end Table

end ColumnStore
