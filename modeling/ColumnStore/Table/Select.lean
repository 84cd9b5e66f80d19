import ColumnStore.Statement
import ColumnStore.Table

/-!
# Query results

A query answers with the stored spellings of the chosen columns and with every row cut down to
them, in the order and as often as they are named. A result is written one row a line, with bars
between the values, and ends with the number of rows.
-/

namespace ColumnStore

structure QueryResult where
  columns : List String
  rows : List Row
  deriving DecidableEq, Repr

namespace QueryResult

def renderLine (cells : List String) : String := "| " ++ " | ".intercalate cells ++ " |\n"

def render (r : QueryResult) : String :=
  renderLine r.columns ++ String.join (r.rows.map fun row => renderLine (row.map Value.render)) ++
    "(" ++ toString r.rows.length ++ " rows)"

end QueryResult

namespace Table

def project (t : Table) (columns : List Column) : QueryResult where
  columns := columns.map (·.definition.name)
  rows := (List.range t.rowCount).map fun row => columns.map fun c => (c.get? row).getD .null

def select (t : Table) : Projection → Except Fault QueryResult
  | .all => .ok (t.project t.columns)
  | .columns names => (names.mapM t.column).map t.project

end Table

end ColumnStore
