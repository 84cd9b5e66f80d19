import ColumnStore.Column

/-!
# Tables

A table is a list of columns and a count of rows; the order of the columns is the order of the
values in every row. A name denotes the first column that it agrees with up to letter case.
-/

namespace ColumnStore

structure Table where
  name : String
  columns : List Column
  rowCount : Nat
  deriving DecidableEq, Repr

namespace Table

/-- An empty table. The definitions are taken as they are. -/
def ofDefinitions (name : String) (definitions : List Column.Definition) : Table :=
  ⟨name, definitions.map Column.empty, 0⟩

def definitions (t : Table) : List Column.Definition := t.columns.map (·.definition)

def columnNames (t : Table) : List String := t.columns.map (·.definition.name)

def position? (t : Table) (name : String) : Option Nat :=
  t.columns.findIdx? (·.definition.isNamed name)

def column? (t : Table) (name : String) : Option Column :=
  t.columns.find? (·.definition.isNamed name)

def position (t : Table) (name : String) : Except Fault Nat :=
  match t.position? name with
  | some i => .ok i
  | none => .error (.notFound .column name)

def column (t : Table) (name : String) : Except Fault Column :=
  match t.column? name with
  | some c => .ok c
  | none => .error (.notFound .column name)

/-- A row, if the table counts it and every column holds it. -/
def row? (t : Table) (row : Nat) : Option Row :=
  if row < t.rowCount then t.columns.mapM (·.get? row) else none

def rows (t : Table) : List Row := (List.range t.rowCount).filterMap t.row?

def truncate (t : Table) : Table := { t with columns := t.columns.map Column.clear, rowCount := 0 }

end Table

end ColumnStore
