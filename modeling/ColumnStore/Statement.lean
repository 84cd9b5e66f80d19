import ColumnStore.Column.Definition

/-!
# Statements

What a statement asks for, with only the arguments it needs. A statement may hold more than its
text can write: stored defaults inside definitions, negative numbers, empty lists, any names.
-/

namespace ColumnStore

/-- Which columns a query answers with. -/
inductive Projection
  | all
  | columns (names : List String)
  deriving DecidableEq, Repr

inductive Statement
  | createDatabase (name : String)
  | dropDatabase (name : String)
  | useDatabase (name : String)
  | leaveDatabase
  | renameDatabase (old new : String)
  | showDatabases
  | showTables
  | showCurrentDatabase
  | createTable (name : String) (columns : List Column.Definition)
  | dropTable (name : String)
  | renameTable (old new : String)
  | truncateTable (table : String)
  | insert (table : String) (columns : List String) (values : List Literal)
  | addColumns (table : String) (columns : List Column.Definition)
      (defaults : Option (List Literal))
  | removeColumns (table : String) (columns : List String)
  | renameColumn (table old new : String)
  | modifyColumns (table : String) (columns : List Column.Definition)
  | setDefault (table column : String) (value : Literal)
  | dropDefault (table column : String)
  | select (table : String) (projection : Projection)
  deriving DecidableEq, Repr

/-- The statements that leave the catalog as it is. -/
def Statement.isReadOnly : Statement → Bool
  | showDatabases | showTables | showCurrentDatabase | select _ _ => true
  | _ => false

end ColumnStore
