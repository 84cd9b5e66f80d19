import ColumnStore.Proofs.Catalog.WellFormed
import ColumnStore.Proofs.Database.Directory

/-!
# A catalog is its directory

One call on a well-formed catalog commutes with reading it as a directory: it is answered exactly
when the directory allows the request, and leaves the directory after it. So does a run of calls
from the empty catalog.
-/

namespace ColumnStore

open Directory (Request)

variable {α : Type}

/-! ## Databases -/

namespace Registry

variable {r : Registry Database} {name : String}

theorem lookup_tables (r : Registry Database) (name : String) :
    r.tables.lookup name = (r.find? name).map (·.tables) := by
  rw [tables, Finmap.dlookup_list_toFinmap, find?]
  induction r.entries with
  | nil => rfl
  | cons entry rest ih =>
    obtain ⟨key, d⟩ := entry
    rw [List.map_cons, lookup_cons_eq]
    by_cases here : name = key
    · subst here
      rw [List.dlookup_cons_eq, if_pos rfl, Option.map_some]
    · rw [List.dlookup_cons_ne _ _ here, if_neg here, ih]

theorem mem_names_iff : name ∈ r.names ↔ r.contains name = true := by
  rw [contains, find?, Option.isSome_iff_ne_none, ne_eq, List.lookup_eq_none_iff, names]
  simp

@[simp]
theorem mem_tables : name ∈ r.tables ↔ r.contains name = true := by
  rw [← Finmap.lookup_isSome, lookup_tables, contains, Option.isSome_map]

@[simp]
theorem tables_insert (r : Registry Database) (name : String) (d : Database) :
    (r.insert name d).tables = r.tables.insert name d.tables := by
  refine Finmap.ext_lookup fun other => ?_
  rw [lookup_tables, find?_insert]
  by_cases here : other = name
  · subst here
    simp
  · rw [Finmap.lookup_insert_of_ne _ here, lookup_tables, if_neg here]

@[simp]
theorem tables_erase (r : Registry Database) (name : String) :
    (r.erase name).tables = r.tables.erase name := by
  refine Finmap.ext_lookup fun other => ?_
  rw [lookup_tables, find?_erase]
  by_cases here : other = name
  · subst here
    simp
  · rw [Finmap.lookup_erase_ne here, lookup_tables, if_neg here]

end Registry

namespace Catalog

variable {c : Catalog} {name old new : String}

theorem success_createDatabase (c : Catalog) (name : String) :
    (c.createDatabase name).success?.map directory = c.directory.step? (.createDatabase name) := by
  by_cases valid : isValidName name = true <;>
    by_cases present : c.databases.contains name = true <;>
      simp [createDatabase, Directory.step?, directory, valid, present, Database.empty]

theorem success_useDatabase (c : Catalog) (name : String) :
    (c.useDatabase name).success?.map directory = c.directory.step? (.useDatabase name) := by
  by_cases present : c.databases.contains name = true <;>
    simp [useDatabase, Directory.step?, directory, present]

theorem success_dropDatabase (c : Catalog) (name : String) :
    (c.dropDatabase name).success?.map directory = c.directory.step? (.dropDatabase name) := by
  by_cases present : c.databases.contains name = true <;>
    by_cases chosen : c.current = some name <;>
      simp [dropDatabase, Directory.step?, directory, present, chosen]

theorem success_renameDatabase (c : Catalog) (old new : String) :
    (c.renameDatabase old new).success?.map directory =
      c.directory.step? (.renameDatabase old new) := by
  cases current : c.current with
  | some name => simp [renameDatabase, Directory.step?, directory, current]
  | none =>
    by_cases valid : isValidName new = true <;>
      by_cases present : c.databases.contains new = true <;>
        cases found : c.databases.find? old <;>
          simp [renameDatabase, Directory.step?, directory, current, valid, present,
            Registry.lookup_tables, found]

/-! ## Tables of the current database -/

section Within

variable {call : Database → Outcome Fault Database α} {f : List Table → Option (List Table)}

theorem success_onDatabase (h : c.WellFormed)
    (each : ∀ d, d.WellFormed → (call d).success?.map (·.tables) = f d.tables) :
    (c.onDatabase call).success?.map directory = c.directory.change f := by
  cases current : c.current with
  | none =>
    have none : c.database = .error .noActiveDatabase := by
      rw [database, currentName, current]
      rfl
    rw [onDatabase_of_error none]
    simp [Directory.change, directory, current, Outcome.success?]
  | some name =>
    obtain ⟨d, found⟩ := Option.isSome_iff_exists.mp (h.current name current)
    have chosen : c.database = .ok d := database_eq_ok_iff.mpr ⟨name, current, found⟩
    obtain ⟨named, wellFormed⟩ := h.current_eq chosen
    obtain rfl : d.name = name := Option.some.inj (named.symm.trans current)
    rw [onDatabase_eq h chosen]
    have changed : c.directory.change f = (f d.tables).map fun tables =>
        ⟨c.databases.tables.insert d.name tables, some d.name⟩ := by
      simp [Directory.change, directory, current, Registry.lookup_tables, found, Option.map_eq_bind]
    rw [changed, ← each d wellFormed]
    cases answer : (call d).answer <;> simp [Outcome.success?, answer, directory, current]

end Within

theorem success_tableCall {o : Table → Outcome Fault Table α} (h : c.WellFormed) (name : String)
    {request : Table.Call} (same : ∀ t, (o t).success? = (request.perform t).success?) :
    (c.onTable name o).success?.map directory = c.directory.step? (.onTable name request) :=
  success_onDatabase h fun _ wellFormed => Database.success_onTable wellFormed name same

theorem onTable_read (h : c.WellFormed) (name : String) (read : Table → Except Fault α) :
    c.onTable name (fun t => ⟨read t, t⟩) = ⟨c.table name >>= read, c⟩ := by
  rw [onTable, table]
  cases chosen : c.database with
  | error e =>
    rw [onDatabase_of_error chosen]
    rfl
  | ok d =>
    obtain ⟨_, wellFormed⟩ := h.current_eq chosen
    rw [onDatabase_eq h chosen, Database.onTable_read wellFormed,
      Registry.insert_of_find? (h.find?_of_database chosen)]
    rfl

/-- A query is a call on a table that leaves it as it is. -/
theorem success_select (h : c.WellFormed) (name : String) (projection : Projection) :
    (⟨c.select name projection, c⟩ : Outcome Fault Catalog QueryResult).success?.map directory =
      c.directory.step? (.onTable name (.select projection)) := by
  rw [select, ← onTable_read h name fun t => t.select projection]
  exact success_tableCall h name fun t => (Outcome.success?_map _ _).symm

theorem success_currentName (c : Catalog) :
    (⟨c.currentName, c⟩ : Outcome Fault Catalog String).success?.map directory =
      c.directory.step? .currentName := by
  cases current : c.current <;>
    simp [currentName, current, Directory.step?, directory]

theorem toOption_tableNames (h : c.WellFormed) :
    c.tableNames.toOption = c.directory.currentTables.map (·.map (·.name)) := by
  cases current : c.current with
  | none => simp [tableNames, database, currentName, current, Directory.currentTables, directory]
  | some name =>
    obtain ⟨d, found⟩ := Option.isSome_iff_exists.mp (h.current name current)
    simp [tableNames, database, currentName, current, Directory.currentTables, directory, found,
      Registry.lookup_tables, Database.tableNames]

theorem success_tableNames (h : c.WellFormed) :
    (⟨c.tableNames, c⟩ : Outcome Fault Catalog (List String)).success?.map directory =
      c.directory.step? .tableNames := by
  rw [Outcome.success?_read, toOption_tableNames h, Directory.step?]
  cases c.directory.currentTables <;> simp

/-! ## Statements, calls and runs -/

theorem success_execute (h : c.WellFormed) (s : Statement) :
    (c.execute s).success?.map directory = c.directory.step? s.request := by
  have replied {α : Type} {o : Outcome Fault Catalog α} {reply : α → Reply} {request : Request}
      (follows : o.success?.map directory = c.directory.step? request) :
      (o.map reply).success?.map directory = c.directory.step? request := by
    rwa [Outcome.success?_map]
  have onTable {o : Table → Outcome Fault Table Unit} {name : String} {call : Table.Call}
      (same : ∀ t, (o t).map (fun _ => none) = call.perform t) {reply : Unit → Reply} :
      ((c.onTable name o).map reply).success?.map directory =
        c.directory.step? (.onTable name call) := by
    refine replied (success_tableCall h name fun t => ?_)
    rw [← same, Outcome.success?_map]
  cases s with
  | createDatabase name => exact replied (success_createDatabase c name)
  | dropDatabase name => exact replied (success_dropDatabase c name)
  | useDatabase name => exact replied (success_useDatabase c name)
  | leaveDatabase => rfl
  | renameDatabase old new => exact replied (success_renameDatabase c old new)
  | showDatabases => rfl
  | showTables => exact replied (success_tableNames h)
  | showCurrentDatabase => exact replied (success_currentName c)
  | createTable name columns =>
    exact replied (success_onDatabase h fun d _ => d.success_createTable name columns)
  | dropTable name =>
    exact replied (success_onDatabase h fun _ wellFormed =>
      Database.success_dropTable wellFormed name)
  | renameTable old new =>
    exact replied (success_onDatabase h fun _ wellFormed =>
      Database.success_renameTable wellFormed old new)
  | truncateTable table => exact onTable fun _ => rfl
  | insert table columns values => exact onTable fun _ => rfl
  | addColumns table columns defaults => exact onTable fun _ => rfl
  | removeColumns table columns => exact onTable fun _ => rfl
  | renameColumn table old new => exact onTable fun _ => rfl
  | modifyColumns table columns => exact onTable fun _ => rfl
  | setDefault table column value => exact onTable fun _ => rfl
  | dropDefault table column => exact onTable fun _ => rfl
  | select table projection => exact replied (success_select h table projection)

/-- A call is answered exactly when the directory has a next one, and then leads to it. -/
theorem success_perform (h : c.WellFormed) (call : Call) :
    (call.perform c).success?.map directory = c.directory.next? call := by
  have executed (s : Statement) :
      ((c.execute s).mapError Rejection.refused).success?.map directory =
        c.directory.step? s.request := by
    rw [Outcome.success?_mapError, success_execute h]
  cases call with
  | createDatabase name => exact executed (.createDatabase name)
  | useDatabase name => exact executed (.useDatabase name)
  | leaveDatabase => exact executed .leaveDatabase
  | dropDatabase name => exact executed (.dropDatabase name)
  | renameDatabase old new => exact executed (.renameDatabase old new)
  | databaseNames => exact executed .showDatabases
  | currentName => exact executed .showCurrentDatabase
  | createTable name columns => exact executed (.createTable name columns)
  | dropTable name => exact executed (.dropTable name)
  | renameTable old new => exact executed (.renameTable old new)
  | tableNames => exact executed .showTables
  | truncateTable name => exact executed (.truncateTable name)
  | insertRow table columns values =>
    have stored : (c.insertRow table columns values).success?.map directory =
        c.directory.step? (.onTable table (.insertRow columns values)) :=
      success_tableCall h table fun t => (Outcome.success?_map _ _).symm
    rwa [← Outcome.success?_map fun _ => Reply.done,
      ← Outcome.success?_mapError Rejection.refused] at stored
  | insert table columns values => exact executed (.insert table columns values)
  | select table projection => exact executed (.select table projection)
  | addColumns table columns defaults => exact executed (.addColumns table columns defaults)
  | removeColumns table columns => exact executed (.removeColumns table columns)
  | renameColumn table old new => exact executed (.renameColumn table old new)
  | modifyColumns table columns => exact executed (.modifyColumns table columns)
  | setDefault table column value => exact executed (.setDefault table column value)
  | dropDefault table column => exact executed (.dropDefault table column)
  | execute statement => exact executed statement
  | run text =>
    rw [Call.perform, run, Directory.next?, Call.request?]
    cases Statement.ofText text with
    | error e => rfl
    | ok s => exact executed s

/-- A refused call leaves the directory as well. -/
theorem directory_perform (h : c.WellFormed) (call : Call) :
    (call.perform c).state.directory = (c.directory.next? call).getD c.directory := by
  rw [← success_perform h call]
  cases answer : (call.perform c).answer with
  | error e => simp [Outcome.success?, answer, (settles_perform h call).refused e answer]
  | ok reply => simp [Outcome.success?, answer]

theorem directory_after (h : c.WellFormed) (calls : List Call) :
    (c.after calls).directory =
      calls.foldl (fun d call => (d.next? call).getD d) c.directory := by
  induction calls generalizing c with
  | nil => rfl
  | cons call rest ih =>
    have tail := ih ((settles_perform h call).keeps h)
    rw [directory_perform h call] at tail
    exact tail

/-- The catalog that any calls have left behind reads as the directory after them, with every
database under its own name. A further call is answered exactly when that directory allows it, and
the listings name the databases in ascending order and the tables in theirs. -/
theorem refines_directory (calls : List Call) :
    let c := empty.after calls
    let d := Directory.after calls
    c.directory = d ∧
      (∀ entry ∈ c.databases.entries, entry.2.name = entry.1) ∧
      (∀ call : Call, (∃ reply, (call.perform c).answer = .ok reply) ↔ (d.next? call).isSome) ∧
      (c.databaseNames.Pairwise (· < ·) ∧ ∀ name, name ∈ c.databaseNames ↔ name ∈ d.tables) ∧
      c.tableNames.toOption = d.currentTables.map (·.map (·.name)) := by
  intro c d
  have wellFormed : c.WellFormed := wellFormed_empty.after calls
  have read : c.directory = d := directory_after wellFormed_empty calls
  refine ⟨read, fun entry member => (wellFormed.databases entry member).1, fun call => ?_,
    ⟨?_, fun name => ?_⟩, ?_⟩
  · rw [← read, ← success_perform wellFormed, Option.isSome_map, Outcome.isSome_success?]
  · exact List.pairwise_map.mpr c.databases.ascending
  · rw [← read, databaseNames, Registry.mem_names_iff]
    exact Registry.mem_tables.symm
  · rw [← read, toOption_tableNames wellFormed]

end Catalog

end ColumnStore
