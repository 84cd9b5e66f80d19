import ColumnStore.Database
import ColumnStore.Proofs.Table.WellFormed

/-!
# Well-formed databases

A database is well formed when its name is valid, its tables have different names, and each of
them is well formed. A call on one of its tables leaves the others and the names as they are.
-/

namespace ColumnStore.Database

variable {d d' : Database} {name old new : String} {i : Nat}

structure WellFormed (d : Database) : Prop where
  name : isValidName d.name = true
  distinct : d.tableNames.Nodup
  tables : ∀ t ∈ d.tables, t.WellFormed

/-- A well-formed database that bears the name of another. -/
def Succeeds (d d' : Database) : Prop := d'.WellFormed ∧ d'.name = d.name

theorem wellFormed_empty (valid : isValidName name = true) : (empty name).WellFormed where
  name := valid
  distinct := .nil
  tables := by simp [empty]

theorem table?_eq (d : Database) (name : String) :
    d.table? name = (d.position? name).bind (d.tables[·]?) :=
  List.find?_eq_bind_findIdx?_getElem?

theorem table?_eq_none (absent : d.position? name = none) : d.table? name = none := by
  rw [table?_eq, absent, Option.bind_none]

/-- A position that was found holds a table of the name. -/
theorem getElem?_of_position? (h : d.position? name = some i) :
    ∃ t, d.tables[i]? = some t ∧ d.table? name = some t ∧ t.name = name := by
  obtain ⟨inside, named, _⟩ := List.findIdx?_eq_some_iff_getElem.mp h
  have entry := List.getElem?_eq_getElem inside
  refine ⟨d.tables[i], entry, ?_, by simpa using named⟩
  rw [table?_eq, h]
  exact entry

theorem contains_iff : d.contains name = true ↔ name ∈ d.tableNames := by
  rw [contains, position?, List.findIdx?_isSome, List.any_eq_true, tableNames, List.mem_map]
  simp

theorem position_eq_ok_iff : d.position name = .ok i ↔ d.position? name = some i := by
  rw [position]
  cases d.position? name <;> simp

/-- Where names are different, each table is found by its own. -/
theorem position?_of_getElem? {t : Table} (distinct : d.tableNames.Nodup)
    (entry : d.tables[i]? = some t) : d.position? t.name = some i := by
  obtain ⟨inside, rfl⟩ := List.getElem?_eq_some_iff.mp entry
  refine List.findIdx?_eq_some_iff_getElem.mpr ⟨inside, by simp, fun j before named => ?_⟩
  rw [List.nodup_iff_getElem?_ne_getElem?] at distinct
  have within : j < d.tables.length := by omega
  refine distinct j i before (by simpa [tableNames] using inside) ?_
  simpa [tableNames, inside, within] using named

section OnTable

variable {α : Type} {call : Table → Outcome Fault Table α}

theorem onTable_eq {t : Table} (distinct : d.tableNames.Nodup) (entry : d.tables[i]? = some t) :
    d.onTable t.name call =
      ⟨(call t).answer, { d with tables := d.tables.set i (call t).state }⟩ := by
  have position := position?_of_getElem? distinct entry
  obtain ⟨found, here, table, _⟩ := getElem?_of_position? position
  obtain rfl := Option.some.inj (entry.symm.trans here)
  simp only [onTable, position, table]

theorem settles_onTable (h : d.WellFormed)
    (each : ∀ t, t.WellFormed → (call t).Settles t t.Succeeds) :
    (d.onTable name call).Settles d d.Succeeds := by
  rw [onTable]
  cases position : d.position? name with
  | none => exact Outcome.settles_error _
  | some i =>
    obtain ⟨t, entry, found, _⟩ := getElem?_of_position? position
    have settled := each t (h.tables t (List.mem_of_getElem? entry))
    obtain ⟨inside, rfl⟩ := List.getElem?_eq_some_iff.mp entry
    simp only [found]
    refine ⟨fun e refused => ?_, fun a answered => ?_⟩
    · rw [settled.refused e refused, List.set_getElem_self]
    · obtain ⟨wellFormed, same⟩ := settled.answered a answered
      refine ⟨⟨h.name, ?_, fun t member => ?_⟩, rfl⟩
      · have names : (d.tables.set i (call d.tables[i]).state).map Table.name = d.tableNames := by
          apply map_set_of_same
          rw [List.getElem?_map, List.getElem?_eq_getElem inside, Option.map_some, same]
        rw [tableNames, names]
        exact h.distinct
      · rcases List.mem_or_eq_of_mem_set member with other | rfl
        · exact h.tables t other
        · exact wellFormed

end OnTable

theorem succeeds_createTable {columns : List Column.Definition} (h : d.WellFormed)
    (created : d.createTable name columns = .ok d') : d.Succeeds d' := by
  obtain ⟨valid, rest⟩ := check_bind_eq_ok_iff.mp created
  simp only at rest
  split at rest
  · exact (throw_bind_eq_ok_iff.mp rest).elim
  · next free =>
    obtain ⟨checked, appended⟩ := check_bind_eq_ok_iff.mp rest
    rw [← pure_eq_ok_iff.mp appended]
    have valid := checkName_eq_ok_iff.mp valid
    refine ⟨⟨h.name, ?_, fun t member => ?_⟩, rfl⟩
    · have fresh : name ∉ d.tableNames := fun taken => free (contains_iff.mpr taken)
      rw [tableNames, List.map_append]
      exact h.distinct.append (List.nodup_singleton _) (by simpa [Table.ofDefinitions] using fresh)
    · rcases List.mem_append.mp member with other | here
      · exact h.tables t other
      · exact List.mem_singleton.mp here ▸ Table.wellFormed_ofDefinitions valid checked

theorem succeeds_dropTable (h : d.WellFormed) {dropped : Table × Database}
    (removed : d.dropTable name = .ok dropped) : d.Succeeds dropped.2 := by
  obtain ⟨i, _, rest⟩ := bind_eq_ok_iff.mp removed
  obtain ⟨t, _, erased⟩ := bind_eq_ok_iff.mp rest
  rw [← pure_eq_ok_iff.mp erased]
  have kept := List.eraseIdx_sublist d.tables i
  exact ⟨⟨h.name, h.distinct.sublist (kept.map _), fun t member => h.tables t (kept.subset member)⟩,
    rfl⟩

def withTableName (d : Database) (position : Nat) (name : String) : Database :=
  { d with tables := d.tables.modify position fun t => { t with name } }

theorem renameTable_eq_ok_iff :
    d.renameTable old new = .ok d' ↔ ∃ i, d.position? old = some i ∧ isValidName new = true ∧
      new ∉ d.tableNames ∧ d.withTableName i new = d' := by
  rw [renameTable, bind_eq_ok_iff]
  refine exists_congr fun i => ?_
  rw [position_eq_ok_iff, check_bind_eq_ok_iff, checkName_eq_ok_iff, guard_eq_ok_iff,
    pure_eq_ok_iff, contains_iff]
  rfl

theorem tableNames_withTableName (d : Database) (i : Nat) (name : String) :
    (d.withTableName i name).tableNames = d.tableNames.set i name :=
  map_modify_eq_set d.tables i fun _ => rfl

theorem succeeds_renameTable (h : d.WellFormed) (renamed : d.renameTable old new = .ok d') :
    d.Succeeds d' := by
  obtain ⟨i, _, valid, free, rfl⟩ := renameTable_eq_ok_iff.mp renamed
  refine ⟨⟨h.name, ?_, fun t member => ?_⟩, rfl⟩
  · rw [tableNames_withTableName]
    exact nodup_set h.distinct fun j taken => absurd (List.mem_of_getElem? taken) free
  · rcases mem_modify member with other | ⟨t, listed, rfl⟩
    · exact h.tables _ other
    · exact { h.tables t (List.mem_of_getElem? listed) with name := valid }

end ColumnStore.Database
