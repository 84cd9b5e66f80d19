import ColumnStore.Indexed.Catalog
import ColumnStore.Proofs.Catalog.Locality
import ColumnStore.Proofs.Indexed.Columns
import ColumnStore.Proofs.Indexed.Statement
import ColumnStore.Proofs.Indexed.Scanner

/-!
# No access out of range

Whatever has been asked of a new catalog, every statement and every text has its outcome by
position as well, on a catalog of one's own and on a shared one: no access is out of range, and no
statement is taken for a query that is none.
-/

namespace ColumnStore

open Indexed

variable {α : Type}

theorem Indexed.commit_lift {σ : Type} (old : σ) (new : Except Fault σ) :
    Indexed.commit old (lift new) = some (.commit old new) := rfl

namespace Database

variable {d : Database} {name : String}

theorem createTableAt_eq (d : Database) (name : String) (columns : List Column.Definition) :
    d.createTableAt name columns = lift (d.createTable name columns) := by
  refine lift_bind_congr fun _ _ => ?_
  cases d.contains name with
  | true => rfl
  | false =>
    simp only [Bool.false_eq_true, if_false, Table.checkNewColumnsAt_eq]
    exact lift_bind_congr fun _ _ => rfl

theorem dropTableAt_eq (d : Database) (name : String) :
    d.dropTableAt name = lift ((d.dropTable name).map (·.2)) := by
  rw [dropTable, map_bind_eq]
  refine lift_bind_congr fun i found => ?_
  obtain ⟨t, entry, table, _⟩ := getElem?_of_position? (position_eq_ok_iff.mp found)
  have present : d.table name = .ok t := by rw [Database.table, table]
  rw [Indexed.remove, entry, present]
  rfl

theorem renameTableAt_eq (d : Database) (old new : String) :
    d.renameTableAt old new = lift (d.renameTable old new) := by
  refine lift_bind_congr fun i found => lift_bind_congr fun _ _ => ?_
  obtain ⟨t, entry, _⟩ := getElem?_of_position? (position_eq_ok_iff.mp found)
  cases d.contains new with
  | true => rfl
  | false =>
    simp only [modify_eq entry]
    rfl

theorem onTableAt_eq {callAt : Table → Option (Outcome Fault Table α)}
    {call : Table → Outcome Fault Table α}
    (each : ∀ t ∈ d.tables, callAt t = some (call t)) :
    d.onTableAt name callAt = some (d.onTable name call) := by
  unfold onTableAt onTable
  cases position : d.position? name with
  | none => rfl
  | some i =>
    obtain ⟨t, entry, found, _⟩ := getElem?_of_position? position
    simp only [found, each t (List.mem_of_getElem? entry)]
    rfl

end Database

namespace Catalog

variable {c : Catalog}

theorem onDatabaseAt_eq {callAt : Database → Option (Outcome Fault Database α)}
    {call : Database → Outcome Fault Database α}
    (each : ∀ d, c.database = .ok d → callAt d = some (call d)) :
    c.onDatabaseAt callAt = some (c.onDatabase call) := by
  unfold onDatabaseAt onDatabase
  cases chosen : c.database with
  | error e => cases c.currentName <;> rfl
  | ok d =>
    cases c.currentName with
    | error e => rfl
    | ok name =>
      simp only [each d chosen]
      rfl

theorem onTableAt_eq (h : c.WellFormed) {name : String}
    {callAt : Table → Option (Outcome Fault Table α)} {call : Table → Outcome Fault Table α}
    (each : ∀ t : Table, t.Sound → callAt t = some (call t)) :
    c.onTableAt name callAt = some (c.onTable name call) := by
  refine onDatabaseAt_eq fun d chosen => Database.onTableAt_eq fun t member => each t ?_
  exact ((h.current_eq chosen).2.tables t member).sound

/-- A change that is the same by position is kept in the same way. -/
theorem onTableAt_commit (h : c.WellFormed) {name : String} {changeAt : Table → Indexed Table}
    {change : Table → Except Fault Table}
    (each : ∀ t : Table, t.Sound → changeAt t = lift (change t)) :
    (c.onTableAt name fun t => Indexed.commit t (changeAt t)) =
      some (c.onTable name fun t => .commit t (change t)) := by
  refine onTableAt_eq h fun t sound => ?_
  rw [each t sound, Indexed.commit_lift]

theorem onDatabaseAt_commit {changeAt : Database → Indexed Database}
    {change : Database → Except Fault Database} (each : ∀ d, changeAt d = lift (change d)) :
    (c.onDatabaseAt fun d => Indexed.commit d (changeAt d)) =
      some (c.onDatabase fun d => .commit d (change d)) := by
  refine onDatabaseAt_eq fun d _ => ?_
  rw [each d, Indexed.commit_lift]

/-- A statement has a reply by position exactly when it is a query. -/
theorem queryAt_eq (h : c.WellFormed) (s : Statement) : (c.queryAt s).run = c.query? s := by
  cases s with
  | select table projection =>
    rw [queryAt, query?, Catalog.select]
    cases found : c.table table with
    | error e => rfl
    | ok t =>
      rw [lift_ok, pure_bind, Table.selectAt_eq (h.table found).1.sound, ok_bind_eq]
      cases t.select projection <;> rfl
  | _ => rfl

theorem executeAt_eq (h : c.WellFormed) (s : Statement) : c.executeAt s = some (c.execute s) := by
  have query (s : Statement) : executeAt.read c s = (c.query? s).map (⟨·, c⟩) := by
    rw [executeAt.read, queryAt_eq h]
  have done {o : Option (Outcome Fault Catalog Unit)} {outcome : Outcome Fault Catalog Unit}
      (same : o = some outcome) : executeAt.done o = some (outcome.map fun _ => .done) := by
    rw [same]
    rfl
  cases s with
  | showDatabases => exact query _
  | showTables => exact query _
  | showCurrentDatabase => exact query _
  | select table projection => exact query _
  | createTable name columns =>
    exact done (onDatabaseAt_commit fun d => d.createTableAt_eq name columns)
  | dropTable name => exact done (onDatabaseAt_commit fun d => d.dropTableAt_eq name)
  | renameTable old new => exact done (onDatabaseAt_commit fun d => d.renameTableAt_eq old new)
  | insert table columns values =>
    exact done (onTableAt_eq h fun t _ => t.insertAt_eq columns values)
  | addColumns table columns defaults =>
    exact done (onTableAt_commit h fun t _ => t.addColumnsAt_eq columns defaults)
  | removeColumns table columns =>
    exact done (onTableAt_commit h fun t _ => t.removeColumnsAt_eq columns)
  | renameColumn table old new =>
    exact done (onTableAt_commit h fun t _ => t.renameColumnAt_eq old new)
  | modifyColumns table columns =>
    exact done (onTableAt_commit h fun t sound => Table.modifyColumnsAt_eq sound columns)
  | setDefault table column value =>
    exact done (onTableAt_commit h fun t _ => t.setDefaultAt_eq column value)
  | dropDefault table column =>
    exact done (onTableAt_commit h fun t _ => t.dropDefaultAt_eq column)
  | _ => rfl

/-- A shared catalog always has an outcome, and by position it is the same. -/
theorem dispatchAt_eq (h : c.WellFormed) (s : Statement) :
    ∃ o, c.dispatchAt s = some o ∧ c.dispatch? s = some o := by
  rw [dispatchAt, dispatch?, queryAt_eq h, executeAt_eq h]
  cases s <;> exact ⟨_, rfl, rfl⟩

theorem onText_eq (c : Catalog) (text : String)
    (next : Statement → Option (Outcome Fault Catalog Reply)) :
    c.onText text next =
      match Statement.ofText text with
      | .error e => some ⟨.error e, c⟩
      | .ok s => (next s).map (·.mapError .refused) := by
  rw [onText, Statement.ofText, Scanner.ofText_eq]
  cases Token.ofText text with
  | error e => rfl
  | ok tokens =>
    simp only [Option.bind_eq_bind, Option.bind_some, Cursor.ofTokens_eq]
    cases Statement.ofTokens tokens with
    | error e => rfl
    | ok s => cases h : next s <;> simp [Except.mapError, h]

/-- No access is out of range. By position every text has its tokens and every list of tokens its
statement or its error, and on a catalog that comes from a new one by any calls every statement and
every text has its outcome, executed by itself or on the shared catalog. The two vectors of a column
are of one length, and a value is read from them by its row. -/
theorem accesses_in_range (calls : List Call) :
    let c := empty.after calls
    (∀ text, Scanner.ofText text = some (Token.ofText text)) ∧
    (∀ tokens, Cursor.ofTokens tokens = some (Statement.ofTokens tokens)) ∧
    (∀ s, c.executeAt s = some (c.execute s)) ∧
    (∀ s, ∃ o, c.dispatchAt s = some o ∧ c.dispatch? s = some o) ∧
    (∀ text, c.runAt text = some (c.run text)) ∧
    (∀ text, ∃ o, c.runSharedAt text = some o ∧ c.runShared? text = some o) ∧
    ∀ entry ∈ c.databases.entries, ∀ t ∈ entry.2.tables, ∀ column ∈ t.columns,
      column.nulls.size = column.cells.size ∧
        ∀ row, column.getAt row = pure (column.get? row) := by
  intro c
  have h : c.WellFormed := wellFormed_empty.after calls
  refine ⟨Scanner.ofText_eq, Cursor.ofTokens_eq, executeAt_eq h, dispatchAt_eq h, ?_, ?_, ?_⟩
  · intro text
    rw [runAt, onText_eq, run]
    cases Statement.ofText text with
    | error e => rfl
    | ok s =>
      simp only [executeAt_eq h]
      rfl
  · intro text
    rw [runSharedAt, onText_eq, runShared?]
    cases Statement.ofText text with
    | error e => exact ⟨_, rfl, rfl⟩
    | ok s =>
      obtain ⟨o, byPosition, shared⟩ := dispatchAt_eq h s
      simp only [byPosition, shared]
      exact ⟨_, rfl, rfl⟩
  · intro entry listed t member column within
    have aligned := (((h.databases entry listed).2.tables t member).sound column within).aligned
    exact ⟨aligned, Column.getAt_eq aligned⟩

end Catalog

end ColumnStore
