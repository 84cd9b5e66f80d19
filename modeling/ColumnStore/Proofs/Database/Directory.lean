import ColumnStore.Catalog.Directory
import ColumnStore.Proofs.Database.WellFormed

/-!
# Tables of a database by name

A call on a well-formed database does to the list of its tables what the directory says by name:
it is answered exactly when the directory allows it, and leaves the tables of the directory.
-/

namespace ColumnStore

variable {α : Type}

@[simp]
theorem toOption_checkName (kind : ObjectKind) (name : String) :
    (checkName kind name).toOption = if isValidName name then some () else none := by
  rw [checkName]
  split <;> rfl

namespace Database

variable {d : Database} {name old new : String}

@[simp]
theorem toOption_position (d : Database) (name : String) :
    (d.position name).toOption = d.position? name := by
  rw [position]
  cases d.position? name <;> rfl

@[simp]
theorem toOption_table (d : Database) (name : String) :
    (d.table name).toOption = d.table? name := by
  rw [Database.table]
  cases d.table? name <;> rfl

theorem exists_named_iff : (∃ t ∈ d.tables, t.name = name) ↔ d.contains name = true := by
  rw [contains_iff, tableNames, List.mem_map]

theorem all_other_iff : (∀ t ∈ d.tables, t.name ≠ name) ↔ ¬ d.contains name = true := by
  rw [← exists_named_iff]
  simp

theorem success_createTable (d : Database) (name : String) (columns : List Column.Definition) :
    (Outcome.commit d (d.createTable name columns)).success?.map (·.tables) =
      Directory.createTable name columns d.tables := by
  simp only [Outcome.success?_commit, Directory.createTable, all_other_iff, createTable]
  by_cases valid : isValidName name = true <;>
    by_cases present : d.contains name = true <;>
      cases Table.checkNewColumns [] columns name <;>
        simp [valid, present]

theorem success_dropTable (h : d.WellFormed) (name : String) :
    (Outcome.commit d ((d.dropTable name).map (·.2))).success?.map (·.tables) =
      Directory.dropTable name d.tables := by
  simp only [Outcome.success?_commit, Directory.dropTable, exists_named_iff, contains, dropTable]
  cases found : d.position? name with
  | none => simp [found]
  | some i =>
    obtain ⟨t, entry, table, rfl⟩ := getElem?_of_position? found
    simp [found, table, eraseIdx_eq_filter h.distinct entry]

theorem success_renameTable (h : d.WellFormed) (old new : String) :
    (Outcome.commit d (d.renameTable old new)).success?.map (·.tables) =
      Directory.renameTable old new d.tables := by
  simp only [Outcome.success?_commit, Directory.renameTable, exists_named_iff, all_other_iff,
    renameTable]
  cases found : d.position? old with
  | none => simp [found, contains]
  | some i =>
    obtain ⟨t, entry, _, rfl⟩ := getElem?_of_position? found
    have renamed := modify_eq_map h.distinct entry fun t => { t with name := new }
    have here : d.contains t.name = true := by simp [contains, found]
    by_cases valid : isValidName new = true <;>
      by_cases present : d.contains new = true <;>
        simp [found, here, valid, present, renamed]

theorem success_onTable {call : Table → Outcome Fault Table α} (h : d.WellFormed) (name : String)
    {request : Table.Call} (same : ∀ t, (call t).success? = (request.perform t).success?) :
    (d.onTable name call).success?.map (·.tables) = Directory.onTable name request d.tables := by
  have found : d.tables.find? (·.name = name) = d.table? name := rfl
  rw [Directory.onTable, found]
  cases position : d.position? name with
  | none =>
    simp [onTable, position, table?_eq_none position, Outcome.success?]
  | some i =>
    obtain ⟨t, entry, table, rfl⟩ := getElem?_of_position? position
    have set := modify_eq_map h.distinct entry fun _ => (request.perform t).state
    have grown := Outcome.success?_withState (call t) fun new =>
      { d with tables := d.tables.set i new }
    rw [onTable_eq h.distinct entry, table, grown, same t]
    cases answer : (request.perform t).answer <;>
      simp [Outcome.success?, answer, List.set_eq_modify, set]

/-- A call that only reads a table leaves the database. -/
theorem onTable_read (h : d.WellFormed) (name : String) (read : Table → Except Fault α) :
    d.onTable name (fun t => ⟨read t, t⟩) = ⟨d.table name >>= read, d⟩ := by
  cases position : d.position? name with
  | none =>
    simp only [onTable, position, Database.table, table?_eq_none position]
    rfl
  | some i =>
    obtain ⟨t, entry, table, rfl⟩ := getElem?_of_position? position
    obtain ⟨inside, rfl⟩ := List.getElem?_eq_some_iff.mp entry
    rw [onTable_eq h.distinct entry, List.set_getElem_self, Database.table, table]
    rfl

end Database

end ColumnStore
