import ColumnStore.Catalog.Locality
import ColumnStore.Proofs.Database.WellFormed

/-!
# One table of a database

Replacing a table by one of its name changes what that name finds and nothing else, and it is all
that a call on the table does to a database whose tables have different names.
-/

namespace ColumnStore.Database

variable {d : Database} {t u : Table} {name : String} {α : Type}

theorem table_eq_ok_iff : d.table name = .ok t ↔ d.table? name = some t := by
  rw [Database.table]
  cases d.table? name <;> simp

theorem name_of_table (found : d.table name = .ok t) : t.name = name := by
  simpa using List.find?_some (table_eq_ok_iff.mp found)

theorem name_replaced (t other : Table) :
    (if other.name = t.name then t else other).name = other.name := by
  split
  · next same => exact same.symm
  · rfl

@[simp]
theorem name_withTable (d : Database) (t : Table) : (d.withTable t).name = d.name := rfl

@[simp]
theorem tableNames_withTable (d : Database) (t : Table) :
    (d.withTable t).tableNames = d.tableNames := by
  rw [tableNames, withTable, List.map_map, tableNames]
  exact List.map_congr_left fun other _ => name_replaced t other

theorem table?_withTable (d : Database) (t : Table) (name : String) :
    (d.withTable t).table? name =
      (d.table? name).map fun other => if other.name = t.name then t else other := by
  rw [table?, withTable, List.find?_map, table?]
  congr 2
  funext other
  simp [name_replaced]

theorem table_withTable_self (found : d.table t.name = .ok u) :
    (d.withTable t).table t.name = .ok t := by
  have named := name_of_table found
  rw [table_eq_ok_iff] at found ⊢
  simp [table?_withTable, found, named]

theorem table_withTable_of_ne (apart : name ≠ t.name) :
    (d.withTable t).table name = d.table name := by
  rw [Database.table, table?_withTable, Database.table]
  cases found : d.table? name with
  | none => rfl
  | some other =>
    have named := name_of_table (table_eq_ok_iff.mpr found)
    simp [named, apart]

/-- The later of two tables of one name counts. -/
theorem withTable_withTable (named : u.name = t.name) (d : Database) :
    (d.withTable t).withTable u = d.withTable u := by
  simp only [withTable, List.map_map, Database.mk.injEq, true_and]
  refine List.map_congr_left fun other _ => ?_
  by_cases same : other.name = t.name <;> simp [same, named]

theorem withTable_comm (apart : t.name ≠ u.name) :
    (d.withTable t).withTable u = (d.withTable u).withTable t := by
  simp only [withTable, List.map_map, Database.mk.injEq, true_and]
  refine List.map_congr_left fun other _ => ?_
  by_cases first : other.name = t.name
  · simp [first, apart]
  · by_cases second : other.name = u.name <;> simp [first, second, apart.symm]

/-- Where names are different, one position is written. -/
theorem withTable_eq_set {i : Nat} (distinct : d.tableNames.Nodup) (entry : d.tables[i]? = some u)
    (named : u.name = t.name) : d.withTable t = { d with tables := d.tables.set i t } := by
  rw [withTable, List.set_eq_modify, modify_eq_map distinct entry, named]

theorem entry_of_table (found : d.table name = .ok t) : ∃ i : Nat, d.tables[i]? = some t :=
  List.getElem?_of_mem (List.mem_of_find?_eq_some (table_eq_ok_iff.mp found))

/-- To put a table where it stands already changes nothing. -/
theorem withTable_of_table (distinct : d.tableNames.Nodup) (found : d.table name = .ok t) :
    d.withTable t = d := by
  obtain ⟨i, entry⟩ := entry_of_table found
  obtain ⟨inside, rfl⟩ := List.getElem?_eq_some_iff.mp entry
  rw [withTable_eq_set distinct entry rfl, List.set_getElem_self]

theorem getElem?_withTable_of_ne {i : Nat} (apart : u.name ≠ t.name) :
    (d.withTable t).tables[i]? = some u ↔ d.tables[i]? = some u := by
  rw [withTable, List.getElem?_map]
  cases d.tables[i]? with
  | none => simp
  | some other =>
    by_cases same : other.name = t.name
    · have replaced : t ≠ u := fun eq => apart (eq ▸ rfl)
      have old : other ≠ u := fun eq => apart (eq ▸ same)
      simp [same, replaced, old]
    · simp [same]

theorem onTable_of_error {call : Table → Outcome Fault Table α} {e : Fault}
    (missing : d.table name = .error e) : d.onTable name call = ⟨.error e, d⟩ := by
  rw [Database.table] at missing
  cases found : d.table? name with
  | some t => simp [found] at missing
  | none =>
    rw [found] at missing
    cases missing
    rw [onTable, found]
    cases d.position? name <;> rfl

/-- A call on a table of the database replaces that table and no other. -/
theorem onTable_eq_withTable {call : Table → Outcome Fault Table α}
    (distinct : d.tableNames.Nodup) (found : d.table name = .ok t)
    (named : (call t).state.name = t.name) :
    d.onTable name call = ⟨(call t).answer, d.withTable (call t).state⟩ := by
  obtain ⟨i, entry⟩ := entry_of_table found
  rw [← name_of_table found, onTable_eq distinct entry, withTable_eq_set distinct entry named.symm]

end ColumnStore.Database
