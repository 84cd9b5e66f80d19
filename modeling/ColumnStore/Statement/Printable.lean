import ColumnStore.Statement.Printer
import ColumnStore.Token.Layout

/-!
# Statements with a text of their own

Which statements are read back from the text they are written as. The shape has to be one of the
grammar, every name a word and no keyword, every declared length valid, and no number negative.
Nothing is asked of the texts of strings.
-/

namespace ColumnStore.Statement

/-- Every name in a statement: of databases, tables and columns. -/
def names : Statement → List String
  | createDatabase name | dropDatabase name | useDatabase name | dropTable name
  | truncateTable name => [name]
  | renameDatabase old new | renameTable old new => [old, new]
  | leaveDatabase | showDatabases | showTables | showCurrentDatabase => []
  | createTable table columns | addColumns table columns _ | modifyColumns table columns =>
    table :: columns.map (·.name)
  | insert table columns _ | removeColumns table columns | select table (.columns columns) =>
    table :: columns
  | renameColumn table old new => [table, old, new]
  | setDefault table column _ | dropDefault table column => [table, column]
  | select table .all => [table]

def definitions : Statement → List Column.Definition
  | createTable _ columns | addColumns _ columns _ | modifyColumns _ columns => columns
  | _ => []

def literals : Statement → List Literal
  | insert _ _ values => values
  | addColumns _ _ (some defaults) => defaults
  | setDefault _ _ value => [value]
  | _ => []

structure Printable (s : Statement) : Prop where
  grammatical : s.Grammatical
  names : ∀ name ∈ s.names, Token.IsName name
  lengths : ∀ d ∈ s.definitions, ∀ limit, d.type = .varchar limit →
    ColumnType.isValidLength limit = true
  numbers : ∀ n, .number n ∈ s.literals → 0 ≤ n

end ColumnStore.Statement
