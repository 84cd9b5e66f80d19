import Mathlib.Data.Finmap
import ColumnStore.Catalog.Call
import ColumnStore.Table.Call

/-!
# The directory

What a catalog does with the names of databases and tables, said without a registry: a finite map
from the name of each database to its tables in order, and the name of the current one. A call on
the catalog is one request, and a request that is not allowed has no next directory. What happens
inside a table is left to the calls on tables.
-/

namespace ColumnStore

structure Directory where
  tables : Finmap fun _ : String => List Table
  current : Option String

namespace Directory

inductive Request
  | createDatabase (name : String)
  | useDatabase (name : String)
  | leaveDatabase
  | dropDatabase (name : String)
  | renameDatabase (old new : String)
  | databaseNames
  | currentName
  | createTable (name : String) (columns : List Column.Definition)
  | dropTable (name : String)
  | renameTable (old new : String)
  | tableNames
  | onTable (name : String) (call : Table.Call)

def empty : Directory := ⟨∅, none⟩

/-- The tables of the current database. -/
def currentTables (d : Directory) : Option (List Table) := do d.tables.lookup (← d.current)

/-- Replaces the tables of the current database. -/
def change (d : Directory) (f : List Table → Option (List Table)) : Option Directory := do
  let name ← d.current
  let tables ← d.tables.lookup name
  return { d with tables := d.tables.insert name (← f tables) }

/-- The tables that a request leaves of a database, where it is allowed. -/
def createTable (name : String) (columns : List Column.Definition) (tables : List Table) :
    Option (List Table) :=
  if isValidName name ∧ (∀ t ∈ tables, t.name ≠ name) ∧
      Table.checkNewColumns [] columns name = .ok () then
    some (tables ++ [.ofDefinitions name columns])
  else none

def dropTable (name : String) (tables : List Table) : Option (List Table) :=
  if ∃ t ∈ tables, t.name = name then some (tables.filter (·.name ≠ name)) else none

def renameTable (old new : String) (tables : List Table) : Option (List Table) :=
  if (∃ t ∈ tables, t.name = old) ∧ isValidName new ∧ ∀ t ∈ tables, t.name ≠ new then
    some (tables.map fun t => if t.name = old then { t with name := new } else t)
  else none

def onTable (name : String) (call : Table.Call) (tables : List Table) : Option (List Table) := do
  let t ← tables.find? (·.name = name)
  let o := call.perform t
  match o.answer with
  | .ok _ => return tables.map fun other => if other.name = name then o.state else other
  | .error _ => none

/-- The directory after a request, if the request is allowed. -/
def step? (d : Directory) : Request → Option Directory
  | .createDatabase name =>
    if isValidName name ∧ name ∉ d.tables then some { d with tables := d.tables.insert name [] }
    else none
  | .useDatabase name => if name ∈ d.tables then some { d with current := some name } else none
  | .leaveDatabase => some { d with current := none }
  | .dropDatabase name =>
    if name ∈ d.tables then
      some ⟨d.tables.erase name, if d.current = some name then none else d.current⟩
    else none
  | .renameDatabase old new =>
    if d.current = none ∧ isValidName new ∧ new ∉ d.tables then
      (d.tables.lookup old).map fun tables =>
        { d with tables := (d.tables.erase old).insert new tables }
    else none
  | .databaseNames => some d
  | .currentName => if d.current.isSome then some d else none
  | .createTable name columns => d.change (createTable name columns)
  | .dropTable name => d.change (dropTable name)
  | .renameTable old new => d.change (renameTable old new)
  | .tableNames => if d.currentTables.isSome then some d else none
  | .onTable name call => d.change (onTable name call)

end Directory

open Directory (Request)

def Statement.request : Statement → Request
  | createDatabase name => .createDatabase name
  | dropDatabase name => .dropDatabase name
  | useDatabase name => .useDatabase name
  | leaveDatabase => .leaveDatabase
  | renameDatabase old new => .renameDatabase old new
  | showDatabases => .databaseNames
  | showTables => .tableNames
  | showCurrentDatabase => .currentName
  | createTable name columns => .createTable name columns
  | dropTable name => .dropTable name
  | renameTable old new => .renameTable old new
  | truncateTable table => .onTable table .truncate
  | insert table columns values => .onTable table (.insert columns values)
  | addColumns table columns defaults => .onTable table (.addColumns columns defaults)
  | removeColumns table columns => .onTable table (.removeColumns columns)
  | renameColumn table old new => .onTable table (.renameColumn old new)
  | modifyColumns table columns => .onTable table (.modifyColumns columns)
  | setDefault table column value => .onTable table (.setDefault column value)
  | dropDefault table column => .onTable table (.dropDefault column)
  | select table projection => .onTable table (.select projection)

/-- What a call asks for. Nothing, if it is to run a text that is no statement. -/
def Catalog.Call.request? : Catalog.Call → Option Request
  | createDatabase name => some (.createDatabase name)
  | useDatabase name => some (.useDatabase name)
  | leaveDatabase => some .leaveDatabase
  | dropDatabase name => some (.dropDatabase name)
  | renameDatabase old new => some (.renameDatabase old new)
  | databaseNames => some .databaseNames
  | currentName => some .currentName
  | createTable name columns => some (.createTable name columns)
  | dropTable name => some (.dropTable name)
  | renameTable old new => some (.renameTable old new)
  | tableNames => some .tableNames
  | truncateTable name => some (.onTable name .truncate)
  | insertRow table columns values => some (.onTable table (.insertRow columns values))
  | insert table columns values => some (.onTable table (.insert columns values))
  | select table projection => some (.onTable table (.select projection))
  | addColumns table columns defaults => some (.onTable table (.addColumns columns defaults))
  | removeColumns table columns => some (.onTable table (.removeColumns columns))
  | renameColumn table old new => some (.onTable table (.renameColumn old new))
  | modifyColumns table columns => some (.onTable table (.modifyColumns columns))
  | setDefault table column value => some (.onTable table (.setDefault column value))
  | dropDefault table column => some (.onTable table (.dropDefault column))
  | execute statement => some statement.request
  | run text => (Statement.ofText text).toOption.map Statement.request

namespace Directory

/-- The directory after a call, if the call is allowed. -/
def next? (d : Directory) (call : Catalog.Call) : Option Directory := call.request?.bind d.step?

/-- The directory after a list of calls, of which those that are not allowed do nothing. -/
def after (calls : List Catalog.Call) : Directory :=
  calls.foldl (fun d call => (d.next? call).getD d) empty

end Directory

/-- The tables of each database. -/
def Registry.tables (r : Registry Database) : Finmap fun _ : String => List Table :=
  (r.entries.map fun entry => ⟨entry.1, entry.2.tables⟩).toFinmap

/-- A catalog read as a directory. -/
def Catalog.directory (c : Catalog) : Directory := ⟨c.databases.tables, c.current⟩

end ColumnStore
