import ColumnStore.Outcome
import ColumnStore.Table.Schema

/-!
# Databases

A database lists its tables in the order of their creation. Table names are case-sensitive; a
name denotes the first table that bears it.
-/

namespace ColumnStore

structure Database where
  name : String
  tables : List Table
  deriving DecidableEq, Repr

namespace Database

def empty (name : String) : Database := ⟨name, []⟩

def tableNames (d : Database) : List String := d.tables.map (·.name)

def position? (d : Database) (name : String) : Option Nat := d.tables.findIdx? (·.name == name)

def table? (d : Database) (name : String) : Option Table := d.tables.find? (·.name == name)

def contains (d : Database) (name : String) : Bool := (d.position? name).isSome

def position (d : Database) (name : String) : Except Fault Nat :=
  match d.position? name with
  | some i => .ok i
  | none => .error (.notFound .table name)

def table (d : Database) (name : String) : Except Fault Table :=
  match d.table? name with
  | some t => .ok t
  | none => .error (.notFound .table name)

def createTable (d : Database) (name : String) (columns : List Column.Definition) :
    Except Fault Database := do
  checkName .table name
  if d.contains name then throw (.alreadyExists .table name)
  Table.checkNewColumns [] columns name
  return { d with tables := d.tables ++ [.ofDefinitions name columns] }

/-- The table of that name and the database without it. -/
def dropTable (d : Database) (name : String) : Except Fault (Table × Database) := do
  let i ← d.position name
  let t ← d.table name
  return (t, { d with tables := d.tables.eraseIdx i })

def renameTable (d : Database) (old new : String) : Except Fault Database := do
  let i ← d.position old
  checkName .table new
  if d.contains new then throw (.alreadyExists .table new)
  return { d with tables := d.tables.modify i fun t => { t with name := new } }

/-- Makes a call on one table and keeps the state that it leaves. -/
def onTable {α : Type} (d : Database) (name : String) (call : Table → Outcome Fault Table α) :
    Outcome Fault Database α :=
  match d.position? name, d.table? name with
  | some i, some t =>
    let o := call t
    ⟨o.answer, { d with tables := d.tables.set i o.state }⟩
  | _, _ => ⟨.error (.notFound .table name), d⟩

end Database

end ColumnStore
