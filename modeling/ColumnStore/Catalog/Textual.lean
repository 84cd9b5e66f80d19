import ColumnStore.Catalog.Call
import ColumnStore.Statement.Printer
import ColumnStore.Table.Rows
import ColumnStore.Token.Layout

/-!
# What texts can write

A catalog is textual when its names and values can be written in statements: every name is read
as one identifier, and no integer is negative, as numbers are written without a sign. A row of
such a catalog has an insert statement, which names all columns of its table.
-/

namespace ColumnStore

open Token (IsIdentifier)

def Value.IsUnsigned : Value → Prop
  | integer n => 0 ≤ n
  | _ => True

def Literal.IsUnsigned : Literal → Prop
  | number n => 0 ≤ n
  | _ => True

structure Column.Definition.Textual (d : Definition) : Prop where
  name : IsIdentifier d.name
  default : ∀ value, d.default = some value → value.IsUnsigned

structure RowTable.Textual (t : RowTable) : Prop where
  name : IsIdentifier t.name
  definitions : ∀ d ∈ t.definitions, d.Textual
  rows : ∀ row ∈ t.rows, ∀ value ∈ row, value.IsUnsigned

structure Database.Textual (d : Database) : Prop where
  name : IsIdentifier d.name
  tables : ∀ t ∈ d.tables, t.byRows.Textual

/-- Each database can be written, and so can the name that it stands under. -/
def Catalog.Textual (c : Catalog) : Prop :=
  ∀ entry ∈ c.databases.entries, IsIdentifier entry.1 ∧ entry.2.Textual

/-- The arguments that can end up in the table can be written. -/
def Table.Call.Textual : Table.Call → Prop
  | insertRow _ literals | insert _ literals => ∀ l ∈ literals, l.IsUnsigned
  | addColumns new defaults =>
    (∀ d ∈ new, d.Textual) ∧ ∀ literals, defaults = some literals → ∀ l ∈ literals, l.IsUnsigned
  | renameColumn _ new => IsIdentifier new
  | setDefault _ literal => literal.IsUnsigned
  | select _ | truncate | removeColumns _ | modifyColumns _ | dropDefault _ => True

/-- The statement that inserts a row into all columns of a table. -/
def Table.insertion (t : Table) (row : Row) : Statement :=
  .insert t.name t.columnNames (row.map Value.literal)

end ColumnStore
