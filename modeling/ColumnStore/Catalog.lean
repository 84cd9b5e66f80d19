import ColumnStore.Database
import ColumnStore.Registry
import ColumnStore.Table.Insert
import ColumnStore.Table.Select

/-!
# The catalog

A catalog holds every database under its name and remembers which of them is current. Calls on
tables go to the current database and are refused when there is none. A database can be renamed
only while none is current.
-/

namespace ColumnStore

structure Catalog where
  databases : Registry Database
  current : Option String
  deriving DecidableEq

namespace Catalog

def empty : Catalog := ⟨.empty, none⟩

def currentName (c : Catalog) : Except Fault String :=
  match c.current with
  | some name => .ok name
  | none => .error .noActiveDatabase

/-- The current database. -/
def database (c : Catalog) : Except Fault Database := do
  let name ← c.currentName
  match c.databases.find? name with
  | some d => return d
  | none => throw (.notFound .database name)

/-- Makes a call on the current database and keeps the state that it leaves. -/
def onDatabase {α : Type} (c : Catalog) (call : Database → Outcome Fault Database α) :
    Outcome Fault Catalog α :=
  match c.currentName, c.database with
  | .ok name, .ok d =>
    let o := call d
    ⟨o.answer, { c with databases := c.databases.insert name o.state }⟩
  | _, .error e => ⟨.error e, c⟩
  | .error e, _ => ⟨.error e, c⟩

/-- Makes a call on a table of the current database. -/
def onTable {α : Type} (c : Catalog) (name : String) (call : Table → Outcome Fault Table α) :
    Outcome Fault Catalog α :=
  c.onDatabase (·.onTable name call)

/-! ## Databases -/

def createDatabase (c : Catalog) (name : String) : Outcome Fault Catalog Unit :=
  .commit c do
    checkName .database name
    if c.databases.contains name then throw (.alreadyExists .database name)
    return { c with databases := c.databases.insert name (.empty name) }

def useDatabase (c : Catalog) (name : String) : Outcome Fault Catalog Unit :=
  .commit c do
    if !c.databases.contains name then throw (.notFound .database name)
    return { c with current := some name }

def leaveDatabase (c : Catalog) : Catalog := { c with current := none }

/-- Removes a database, and leaves it first when it is the current one. -/
def dropDatabase (c : Catalog) (name : String) : Outcome Fault Catalog Unit :=
  .commit c do
    if !c.databases.contains name then throw (.notFound .database name)
    return ⟨c.databases.erase name, if c.current = some name then none else c.current⟩

def renameDatabase (c : Catalog) (old new : String) : Outcome Fault Catalog Unit :=
  .commit c do
    if let some current := c.current then throw (.databaseInUse current)
    checkName .database new
    if c.databases.contains new then throw (.alreadyExists .database new)
    match c.databases.find? old with
    | none => throw (.notFound .database old)
    | some d =>
      return { c with databases := (c.databases.erase old).insert new { d with name := new } }

def databaseNames (c : Catalog) : List String := c.databases.names

/-! ## Tables -/

def createTable (c : Catalog) (name : String) (columns : List Column.Definition) :
    Outcome Fault Catalog Unit :=
  c.onDatabase fun d => .commit d (d.createTable name columns)

def dropTable (c : Catalog) (name : String) : Outcome Fault Catalog Unit :=
  c.onDatabase fun d => .commit d ((d.dropTable name).map (·.2))

def renameTable (c : Catalog) (old new : String) : Outcome Fault Catalog Unit :=
  c.onDatabase fun d => .commit d (d.renameTable old new)

def tableNames (c : Catalog) : Except Fault (List String) := c.database.map (·.tableNames)

def table (c : Catalog) (name : String) : Except Fault Table := do (← c.database).table name

def truncateTable (c : Catalog) (name : String) : Outcome Fault Catalog Unit :=
  c.onTable name fun t => ⟨.ok (), t.truncate⟩

/-! ## Rows -/

def insertRow (c : Catalog) (table : String) (columns : List String) (values : List Literal) :
    Outcome Fault Catalog Unit :=
  c.onTable table (·.insertRow columns values)

def insert (c : Catalog) (table : String) (columns : List String) (values : List Literal) :
    Outcome Fault Catalog Unit :=
  c.onTable table (·.insert columns values)

def select (c : Catalog) (table : String) (projection : Projection) : Except Fault QueryResult :=
  do (← c.table table).select projection

/-! ## Columns -/

def addColumns (c : Catalog) (table : String) (columns : List Column.Definition)
    (defaults : Option (List Literal)) : Outcome Fault Catalog Unit :=
  c.onTable table fun t => .commit t (t.addColumns columns defaults)

def removeColumns (c : Catalog) (table : String) (columns : List String) :
    Outcome Fault Catalog Unit :=
  c.onTable table fun t => .commit t (t.removeColumns columns)

def renameColumn (c : Catalog) (table old new : String) : Outcome Fault Catalog Unit :=
  c.onTable table fun t => .commit t (t.renameColumn old new)

def modifyColumns (c : Catalog) (table : String) (columns : List Column.Definition) :
    Outcome Fault Catalog Unit :=
  c.onTable table fun t => .commit t (t.modifyColumns columns)

def setDefault (c : Catalog) (table column : String) (value : Literal) :
    Outcome Fault Catalog Unit :=
  c.onTable table fun t => .commit t (t.setDefault column value)

def dropDefault (c : Catalog) (table column : String) : Outcome Fault Catalog Unit :=
  c.onTable table fun t => .commit t (t.dropDefault column)

end Catalog

end ColumnStore
