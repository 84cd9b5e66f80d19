import ColumnStore.Catalog.Execute

/-!
# Calls on a catalog

Everything that can be asked of a catalog, as one value: the operations on databases, tables, rows
and columns with any arguments, the listings, a statement to execute and a text to run. The
arguments are not limited to what a text can write. A run makes one call after the other and goes
on after a refused one.
-/

namespace ColumnStore.Catalog

inductive Call
  | createDatabase (name : String)
  | useDatabase (name : String)
  | leaveDatabase
  | dropDatabase (name : String)
  | renameDatabase (old new : String)
  | databaseNames
  | currentName
  | createTable (name : String) (columns : List Column.Definition)
  | dropTable (name : String)
  | renameTable (old new : String)
  | tableNames
  | truncateTable (name : String)
  | insertRow (table : String) (columns : List String) (values : List Literal)
  | insert (table : String) (columns : List String) (values : List Literal)
  | select (table : String) (projection : Projection)
  | addColumns (table : String) (columns : List Column.Definition)
      (defaults : Option (List Literal))
  | removeColumns (table : String) (columns : List String)
  | renameColumn (table old new : String)
  | modifyColumns (table : String) (columns : List Column.Definition)
  | setDefault (table column : String) (value : Literal)
  | dropDefault (table column : String)
  | execute (statement : Statement)
  | run (text : String)
  deriving DecidableEq, Repr

def Call.perform (c : Catalog) : Call → Outcome Rejection Catalog Reply
  | createDatabase name => done (c.createDatabase name)
  | useDatabase name => done (c.useDatabase name)
  | leaveDatabase => ⟨.ok .done, c.leaveDatabase⟩
  | dropDatabase name => done (c.dropDatabase name)
  | renameDatabase old new => done (c.renameDatabase old new)
  | databaseNames => ⟨.ok (.databases c.databaseNames), c⟩
  | currentName => read (c.currentName.map .currentDatabase)
  | createTable name columns => done (c.createTable name columns)
  | dropTable name => done (c.dropTable name)
  | renameTable old new => done (c.renameTable old new)
  | tableNames => read (c.tableNames.map .tables)
  | truncateTable name => done (c.truncateTable name)
  | insertRow table columns values => done (c.insertRow table columns values)
  | insert table columns values => done (c.insert table columns values)
  | select table projection => read ((c.select table projection).map .rows)
  | addColumns table columns defaults => done (c.addColumns table columns defaults)
  | removeColumns table columns => done (c.removeColumns table columns)
  | renameColumn table old new => done (c.renameColumn table old new)
  | modifyColumns table columns => done (c.modifyColumns table columns)
  | setDefault table column value => done (c.setDefault table column value)
  | dropDefault table column => done (c.dropDefault table column)
  | execute statement => (c.execute statement).mapError .refused
  | run text => c.run text
where
  done (o : Outcome Fault Catalog Unit) : Outcome Rejection Catalog Reply :=
    (o.map fun _ => .done).mapError .refused
  read (answer : Except Fault Reply) : Outcome Rejection Catalog Reply :=
    ⟨answer.mapError .refused, c⟩

/-- The catalog that a list of calls leaves behind, whichever of them are refused. -/
def after (c : Catalog) (calls : List Call) : Catalog :=
  calls.foldl (fun c call => (call.perform c).state) c

end ColumnStore.Catalog
