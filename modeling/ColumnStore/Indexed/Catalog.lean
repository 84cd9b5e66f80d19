import ColumnStore.Catalog.Execute
import ColumnStore.Indexed.Cursor
import ColumnStore.Indexed.Scanner
import ColumnStore.Indexed.Table

/-!
# Statements by position

Statements and texts are executed once more through the operations by position: the scanner, the
cursor over the tokens, the tables of a database and the columns of a table. A statement has no
outcome if any of them makes an access out of range, or if it is answered as a query without being
one. The statements that are not listed here make no access by position.
-/

namespace ColumnStore

open Indexed

/-- The state after a change, which is the old one where the change is refused. -/
def Indexed.commit {σ : Type} (old : σ) (new : Indexed σ) : Option (Outcome Fault σ Unit) :=
  new.run.map (.commit old)

namespace Database

def createTableAt (d : Database) (name : String) (columns : List Column.Definition) :
    Indexed Database := do
  lift (checkName .table name)
  if d.contains name then throw (.alreadyExists .table name)
  Table.checkNewColumnsAt [] columns name
  return { d with tables := d.tables ++ [.ofDefinitions name columns] }

def dropTableAt (d : Database) (name : String) : Indexed Database := do
  let i ← lift (d.position name)
  let tables ← Indexed.remove d.tables i
  return { d with tables }

def renameTableAt (d : Database) (old new : String) : Indexed Database := do
  let i ← lift (d.position old)
  lift (checkName .table new)
  if d.contains new then throw (.alreadyExists .table new)
  let tables ← Indexed.modify d.tables i fun t => { t with name := new }
  return { d with tables }

def onTableAt {α : Type} (d : Database) (name : String)
    (call : Table → Option (Outcome Fault Table α)) : Option (Outcome Fault Database α) :=
  match d.position? name, d.table? name with
  | some i, some t => (call t).map fun o => ⟨o.answer, { d with tables := d.tables.set i o.state }⟩
  | _, _ => some ⟨.error (.notFound .table name), d⟩

end Database

namespace Catalog

def onDatabaseAt {α : Type} (c : Catalog) (call : Database → Option (Outcome Fault Database α)) :
    Option (Outcome Fault Catalog α) :=
  match c.currentName, c.database with
  | .ok name, .ok d =>
    (call d).map fun o => ⟨o.answer, { c with databases := c.databases.insert name o.state }⟩
  | _, .error e => some ⟨.error e, c⟩
  | .error e, _ => some ⟨.error e, c⟩

def onTableAt {α : Type} (c : Catalog) (name : String)
    (call : Table → Option (Outcome Fault Table α)) : Option (Outcome Fault Catalog α) :=
  c.onDatabaseAt (·.onTableAt name call)

/-- The reply to a statement that only reads. A statement that changes something has none. -/
def queryAt (c : Catalog) : Statement → Indexed Reply
  | .showDatabases => return .databases c.databaseNames
  | .showTables => lift (c.tableNames.map .tables)
  | .showCurrentDatabase => lift (c.currentName.map .currentDatabase)
  | .select table projection => do
    let t ← lift (c.table table)
    return .rows (← t.selectAt projection)
  | _ => access none

def executeAt (c : Catalog) : Statement → Option (Outcome Fault Catalog Reply)
  | .showDatabases => read .showDatabases
  | .showTables => read .showTables
  | .showCurrentDatabase => read .showCurrentDatabase
  | .select table projection => read (.select table projection)
  | .createTable name columns =>
    done (c.onDatabaseAt fun d => Indexed.commit d (d.createTableAt name columns))
  | .dropTable name => done (c.onDatabaseAt fun d => Indexed.commit d (d.dropTableAt name))
  | .renameTable old new =>
    done (c.onDatabaseAt fun d => Indexed.commit d (d.renameTableAt old new))
  | .insert table columns values => done (c.onTableAt table (·.insertAt columns values))
  | .addColumns table columns defaults =>
    done (c.onTableAt table fun t => Indexed.commit t (t.addColumnsAt columns defaults))
  | .removeColumns table columns =>
    done (c.onTableAt table fun t => Indexed.commit t (t.removeColumnsAt columns))
  | .renameColumn table old new =>
    done (c.onTableAt table fun t => Indexed.commit t (t.renameColumnAt old new))
  | .modifyColumns table columns =>
    done (c.onTableAt table fun t => Indexed.commit t (t.modifyColumnsAt columns))
  | .setDefault table column value =>
    done (c.onTableAt table fun t => Indexed.commit t (t.setDefaultAt column value))
  | .dropDefault table column =>
    done (c.onTableAt table fun t => Indexed.commit t (t.dropDefaultAt column))
  | s => some (c.execute s)
where
  done (o : Option (Outcome Fault Catalog Unit)) : Option (Outcome Fault Catalog Reply) :=
    o.map (·.map fun _ => .done)
  read (s : Statement) : Option (Outcome Fault Catalog Reply) := (c.queryAt s).run.map (⟨·, c⟩)

def dispatchAt (c : Catalog) (s : Statement) : Option (Outcome Fault Catalog Reply) :=
  if s.isReadOnly then (c.queryAt s).run.map (⟨·, c⟩) else c.executeAt s

/-- Goes on with the statement that a text writes. -/
def onText (c : Catalog) (text : String)
    (next : Statement → Option (Outcome Fault Catalog Reply)) :
    Option (Outcome Rejection Catalog Reply) := do
  match ← Scanner.ofText text with
  | .error e => return ⟨.error (.lexical e), c⟩
  | .ok tokens =>
    match ← Cursor.ofTokens tokens with
    | .error e => return ⟨.error (.grammatical e), c⟩
    | .ok s => return (← next s).mapError .refused

def runAt (c : Catalog) (text : String) : Option (Outcome Rejection Catalog Reply) :=
  c.onText text c.executeAt

def runSharedAt (c : Catalog) (text : String) : Option (Outcome Rejection Catalog Reply) :=
  c.onText text c.dispatchAt

end Catalog

end ColumnStore
