import ColumnStore.Catalog.Call
import ColumnStore.Proofs.Database.WellFormed

/-!
# Well-formed catalogs

The invariant of the whole state. Every call on a well-formed catalog is refused without effect or
leaves a well-formed catalog, so whatever has been asked of a new catalog, and however much of it
was refused, the invariant holds and one more refusal changes nothing.
-/

namespace ColumnStore.Catalog

variable {c : Catalog} {name old new : String}

/-- The current database exists, and every database stands under its own name. -/
structure WellFormed (c : Catalog) : Prop where
  current : ∀ name, c.current = some name → c.databases.contains name = true
  databases : ∀ entry ∈ c.databases.entries, entry.2.name = entry.1 ∧ entry.2.WellFormed

theorem wellFormed_empty : empty.WellFormed where
  current := by
    intro name current
    cases current
  databases := by
    intro entry member
    cases member

/-- A database may be put in, under its name. -/
theorem WellFormed.insert {d : Database} (h : c.WellFormed) (named : d.name = name)
    (wellFormed : d.WellFormed) :
    WellFormed { c with databases := c.databases.insert name d } where
  current := by
    intro current chosen
    exact c.databases.contains_insert name d (h.current current chosen)
  databases := by
    intro entry member
    rcases Registry.mem_insertEntry member with rfl | present
    · exact ⟨named, wellFormed⟩
    · exact h.databases entry present

theorem database_eq_ok_iff {d : Database} :
    c.database = .ok d ↔ ∃ name, c.current = some name ∧ c.databases.find? name = some d := by
  unfold database currentName
  cases c.current with
  | none => simp [bind, Except.bind]
  | some name =>
    cases found : c.databases.find? name <;>
      simp [bind, Except.bind, found, pure, Except.pure, throw, throwThe, MonadExceptOf.throw]

/-- The current database stands under its own name. -/
theorem WellFormed.current_eq {d : Database} (h : c.WellFormed) (chosen : c.database = .ok d) :
    c.current = some d.name ∧ d.WellFormed := by
  obtain ⟨name, current, found⟩ := database_eq_ok_iff.mp chosen
  obtain ⟨stands, wellFormed⟩ := h.databases _ (Registry.mem_of_find? found)
  exact ⟨stands ▸ current, wellFormed⟩

theorem WellFormed.find?_of_database {d : Database} (h : c.WellFormed)
    (chosen : c.database = .ok d) : c.databases.find? d.name = some d := by
  obtain ⟨current, _⟩ := h.current_eq chosen
  obtain ⟨name, named, found⟩ := database_eq_ok_iff.mp chosen
  obtain rfl : d.name = name := Option.some.inj (current.symm.trans named)
  exact found

/-- A database that is put under the current name becomes the current database. -/
theorem database_insert (current : c.current = some name) (d : Database) :
    ({ c with databases := c.databases.insert name d } : Catalog).database = .ok d := by
  refine database_eq_ok_iff.mpr ⟨name, current, ?_⟩
  rw [Registry.find?_insert, if_pos rfl]

section Within

variable {α : Type}

theorem onDatabase_of_error {call : Database → Outcome Fault Database α} {e : Fault}
    (none : c.database = .error e) : c.onDatabase call = ⟨.error e, c⟩ := by
  unfold onDatabase
  rw [none]
  cases c.currentName <;> rfl

theorem onDatabase_eq {call : Database → Outcome Fault Database α} {d : Database}
    (h : c.WellFormed) (chosen : c.database = .ok d) :
    c.onDatabase call =
      ⟨(call d).answer,
        { c with databases := c.databases.insert d.name (call d).state }⟩ := by
  have named : c.currentName = .ok d.name := by
    simp [currentName, (h.current_eq chosen).1]
  simp only [onDatabase, named, chosen]

/-- A call that commits replaces the current database by the one that it makes. -/
theorem onDatabase_commit_eq_ok_iff {c' : Catalog} {made : Database → Except Fault Database}
    (h : c.WellFormed) :
    c.onDatabase (fun d => .commit d (made d)) = ⟨.ok (), c'⟩ ↔
      ∃ d d', c.database = .ok d ∧ made d = .ok d' ∧
        { c with databases := c.databases.insert d.name d' } = c' := by
  cases chosen : c.database with
  | error e => simp [onDatabase_of_error chosen]
  | ok d =>
    rw [onDatabase_eq h chosen]
    cases result : made d <;> simp [Outcome.commit, result]

/-- What settles in every well-formed database settles in the catalog. -/
theorem settles_onDatabase {call : Database → Outcome Fault Database α} (h : c.WellFormed)
    (each : ∀ d, d.WellFormed → (call d).Settles d d.Succeeds) :
    (c.onDatabase call).Settles c WellFormed := by
  cases current : c.current with
  | none =>
    have absent : c.currentName = .error .noActiveDatabase := by simp [currentName, current]
    have without : c.database = .error .noActiveDatabase := by
      rw [database, absent]
      rfl
    simp only [onDatabase, absent, without]
    exact Outcome.settles_error _
  | some name =>
    have named : c.currentName = .ok name := by simp [currentName, current]
    obtain ⟨d, found⟩ := Option.isSome_iff_exists.mp (h.current name current)
    have chosen : c.database = .ok d := database_eq_ok_iff.mpr ⟨name, current, found⟩
    obtain ⟨stands, wellFormed⟩ := h.databases _ (Registry.mem_of_find? found)
    have settled := each d wellFormed
    simp only [onDatabase, named, chosen]
    constructor
    · intro e refused
      rw [settled.refused e refused, Registry.insert_of_find? found]
    · intro a answered
      obtain ⟨after, same⟩ := settled.answered a answered
      exact h.insert (same.trans stands) after

theorem settles_onTable {call : Table → Outcome Fault Table α} (h : c.WellFormed)
    (each : ∀ t, t.WellFormed → (call t).Settles t t.Succeeds) :
    (c.onTable name call).Settles c WellFormed := by
  apply settles_onDatabase h
  intro d wellFormed
  exact Database.settles_onTable wellFormed each

end Within

/-! ## Databases -/

theorem settles_createDatabase (h : c.WellFormed) :
    (c.createDatabase name).Settles c WellFormed := by
  apply Outcome.settles_commit
  intro s created
  obtain ⟨valid, rest⟩ := check_bind_eq_ok_iff.mp created
  simp only at rest
  split at rest
  · exact (throw_bind_eq_ok_iff.mp rest).elim
  · rw [← pure_eq_ok_iff.mp rest]
    exact h.insert rfl (Database.wellFormed_empty (checkName_eq_ok_iff.mp valid))

theorem settles_useDatabase (h : c.WellFormed) : (c.useDatabase name).Settles c WellFormed := by
  apply Outcome.settles_commit
  intro s used
  simp only at used
  split at used
  · exact (throw_bind_eq_ok_iff.mp used).elim
  · next present =>
    rw [← pure_eq_ok_iff.mp used]
    refine ⟨?_, h.databases⟩
    rintro current ⟨⟩
    simpa using present

theorem WellFormed.leaveDatabase (h : c.WellFormed) : c.leaveDatabase.WellFormed where
  current := by
    intro current chosen
    cases chosen
  databases := h.databases

theorem mem_of_mem_erase {α : Type} {r : Registry α} {entry : String × α}
    (h : entry ∈ (r.erase name).entries) : entry ∈ r.entries :=
  List.mem_of_mem_filter h

theorem settles_dropDatabase (h : c.WellFormed) : (c.dropDatabase name).Settles c WellFormed := by
  apply Outcome.settles_commit
  intro s dropped
  simp only at dropped
  split at dropped
  · exact (throw_bind_eq_ok_iff.mp dropped).elim
  · rw [← pure_eq_ok_iff.mp dropped]
    refine ⟨?_, fun entry member => h.databases entry (mem_of_mem_erase member)⟩
    intro current chosen
    simp only at chosen
    split at chosen
    · cases chosen
    · next other =>
      have apart : current ≠ name := by
        rintro rfl
        exact other chosen
      rw [Registry.contains, Registry.find?_erase, if_neg apart]
      exact h.current current chosen

/-- Only while no database is current, so the name that goes is not in use. -/
theorem renameDatabase_eq_ok_iff {c' : Catalog} :
    c.renameDatabase old new = ⟨.ok (), c'⟩ ↔ c.current = none ∧ isValidName new = true ∧
      c.databases.find? new = none ∧ ∃ d, c.databases.find? old = some d ∧
        { c with databases := (c.databases.erase old).insert new { d with name := new } } = c' := by
  rw [renameDatabase, Outcome.commit_eq_ok_iff]
  cases idle : c.current with
  | some current => simp [throw_bind_eq_ok_iff]
  | none =>
    have free : ¬ c.databases.contains new = true ↔ c.databases.find? new = none := by
      simp [Registry.contains]
    rw [check_bind_eq_ok_iff, checkName_eq_ok_iff, guard_eq_ok_iff, free]
    cases c.databases.find? old <;> simp [pure_eq_ok_iff, throw, throwThe, MonadExceptOf.throw]

theorem settles_renameDatabase (h : c.WellFormed) :
    (c.renameDatabase old new).Settles c WellFormed := by
  apply Outcome.settles_commit
  intro s renamed
  obtain ⟨idle, valid, _, d, found, rfl⟩ :=
    renameDatabase_eq_ok_iff.mp (Outcome.commit_eq_ok_iff.mpr renamed)
  obtain ⟨_, wellFormed⟩ := h.databases _ (Registry.mem_of_find? found)
  constructor
  · intro current chosen
    cases idle.symm.trans chosen
  · intro entry member
    rcases Registry.mem_insertEntry member with rfl | present
    · exact ⟨rfl, { wellFormed with name := valid }⟩
    · exact h.databases entry (mem_of_mem_erase present)

/-! ## Tables -/

theorem settles_createTable {columns : List Column.Definition} (h : c.WellFormed) :
    (c.createTable name columns).Settles c WellFormed := by
  apply settles_onDatabase h
  intro d wellFormed
  exact Outcome.settles_commit fun s created => Database.succeeds_createTable wellFormed created

theorem settles_dropTable (h : c.WellFormed) : (c.dropTable name).Settles c WellFormed := by
  apply settles_onDatabase h
  intro d wellFormed
  apply Outcome.settles_commit
  intro s dropped
  obtain ⟨pair, removed, rfl⟩ := map_eq_ok_iff.mp dropped
  exact Database.succeeds_dropTable wellFormed removed

theorem settles_renameTable (h : c.WellFormed) :
    (c.renameTable old new).Settles c WellFormed := by
  apply settles_onDatabase h
  intro d wellFormed
  exact Outcome.settles_commit fun s renamed => Database.succeeds_renameTable wellFormed renamed

/-- A call on a table of the current database settles as the same call on the table does. -/
theorem settles_tableCall {o : Table → Outcome Fault Table Unit} (h : c.WellFormed)
    (call : Table.Call) (same : ∀ t, (o t).map (fun _ => none) = call.perform t) :
    (c.onTable name o).Settles c WellFormed := by
  apply settles_onTable h
  intro t wellFormed
  have settled := wellFormed.settles_perform call
  rw [← same] at settled
  exact settled.of_map

/-! ## Statements, calls and runs -/

theorem settles_execute (h : c.WellFormed) (statement : Statement) :
    (c.execute statement).Settles c WellFormed := by
  cases statement with
  | createDatabase name => exact (settles_createDatabase h).map _
  | dropDatabase name => exact (settles_dropDatabase h).map _
  | useDatabase name => exact (settles_useDatabase h).map _
  | leaveDatabase => exact Outcome.settles_ok _ h.leaveDatabase
  | renameDatabase old new => exact (settles_renameDatabase h).map _
  | showDatabases => exact Outcome.settles_read _ h
  | showTables => exact Outcome.settles_read _ h
  | showCurrentDatabase => exact Outcome.settles_read _ h
  | createTable name columns => exact (settles_createTable h).map _
  | dropTable name => exact (settles_dropTable h).map _
  | renameTable old new => exact (settles_renameTable h).map _
  | truncateTable table => exact (settles_tableCall h .truncate fun _ => rfl).map _
  | insert table columns values =>
    exact (settles_tableCall h (.insert columns values) fun _ => rfl).map _
  | addColumns table columns defaults =>
    exact (settles_tableCall h (.addColumns columns defaults) fun _ => rfl).map _
  | removeColumns table columns =>
    exact (settles_tableCall h (.removeColumns columns) fun _ => rfl).map _
  | renameColumn table old new =>
    exact (settles_tableCall h (.renameColumn old new) fun _ => rfl).map _
  | modifyColumns table columns =>
    exact (settles_tableCall h (.modifyColumns columns) fun _ => rfl).map _
  | setDefault table column value =>
    exact (settles_tableCall h (.setDefault column value) fun _ => rfl).map _
  | dropDefault table column =>
    exact (settles_tableCall h (.dropDefault column) fun _ => rfl).map _
  | select table projection => exact Outcome.settles_read _ h

theorem settles_run (h : c.WellFormed) (text : String) : (c.run text).Settles c WellFormed := by
  rw [run]
  split
  · exact Outcome.settles_error _
  · exact (settles_execute h _).mapError _

/-- Most calls do what a statement does. -/
theorem settles_perform (h : c.WellFormed) (call : Call) :
    (call.perform c).Settles c WellFormed := by
  have executed (statement : Statement) :
      ((c.execute statement).mapError Rejection.refused).Settles c WellFormed :=
    (settles_execute h statement).mapError _
  cases call with
  | createDatabase name => exact executed (.createDatabase name)
  | useDatabase name => exact executed (.useDatabase name)
  | leaveDatabase => exact executed .leaveDatabase
  | dropDatabase name => exact executed (.dropDatabase name)
  | renameDatabase old new => exact executed (.renameDatabase old new)
  | databaseNames => exact Outcome.settles_read _ h
  | currentName => exact Outcome.settles_read _ h
  | createTable name columns => exact executed (.createTable name columns)
  | dropTable name => exact executed (.dropTable name)
  | renameTable old new => exact executed (.renameTable old new)
  | tableNames => exact Outcome.settles_read _ h
  | truncateTable name => exact executed (.truncateTable name)
  | insertRow table columns values =>
    exact ((settles_tableCall h (.insertRow columns values) fun _ => rfl).map _).mapError _
  | insert table columns values => exact executed (.insert table columns values)
  | select table projection => exact Outcome.settles_read _ h
  | addColumns table columns defaults => exact executed (.addColumns table columns defaults)
  | removeColumns table columns => exact executed (.removeColumns table columns)
  | renameColumn table old new => exact executed (.renameColumn table old new)
  | modifyColumns table columns => exact executed (.modifyColumns table columns)
  | setDefault table column value => exact executed (.setDefault table column value)
  | dropDefault table column => exact executed (.dropDefault table column)
  | execute statement => exact executed statement
  | run text => exact settles_run h text

theorem WellFormed.after (h : c.WellFormed) (calls : List Call) : (c.after calls).WellFormed := by
  induction calls generalizing c with
  | nil => exact h
  | cons call rest ih => exact ih ((settles_perform h call).keeps h)

/-- Whatever is asked of a new catalog, it stays well formed. -/
theorem wellFormed_after_calls (calls : List Call) : (empty.after calls).WellFormed :=
  wellFormed_empty.after calls

/-- A refused call leaves the catalog as it was, whatever was asked before. -/
theorem state_of_refused (calls : List Call) (call : Call) {e : Rejection}
    (refused : (call.perform (empty.after calls)).answer = .error e) :
    (call.perform (empty.after calls)).state = empty.after calls :=
  (settles_perform (wellFormed_empty.after calls) call).refused e refused

/-- A text that is one character too long for its column. -/
theorem state_of_refused_long_text :
    let calls : List Call := [.createDatabase "shop", .useDatabase "shop",
      .createTable "items" [⟨"code", .varchar 2, none⟩], .insertRow "items" ["code"] [.string "ab"]]
    let call : Call := .insertRow "items" ["CODE"] [.string "abc"]
    (call.perform (empty.after calls)).answer = .error (.refused (.valueTooLong "code" 2 3)) ∧
      (call.perform (empty.after calls)).state = empty.after calls := by
  intro calls call
  have refused : (call.perform (empty.after calls)).answer =
      .error (.refused (.valueTooLong "code" 2 3)) := by
    decide +kernel
  exact ⟨refused, state_of_refused calls call refused⟩

end ColumnStore.Catalog
