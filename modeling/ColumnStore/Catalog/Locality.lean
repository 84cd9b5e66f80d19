import ColumnStore.Catalog.Call
import ColumnStore.Table.Call

/-!
# One table of a catalog

A call on a table is also a call on the catalog, which looks the table up by name in the current
database. What such a call may touch is said here without it: one table of a catalog is replaced,
and two catalogs agree beside a table.
-/

namespace ColumnStore

/-- The call on a catalog that makes this call on a table of the current database. -/
def Table.Call.on (table : String) : Table.Call → Catalog.Call
  | insertRow names literals => .insertRow table names literals
  | insert names literals => .insert table names literals
  | select projection => .select table projection
  | truncate => .truncateTable table
  | addColumns new defaults => .addColumns table new defaults
  | removeColumns names => .removeColumns table names
  | renameColumn old new => .renameColumn table old new
  | modifyColumns definitions => .modifyColumns table definitions
  | setDefault name literal => .setDefault table name literal
  | dropDefault name => .dropDefault table name

/-- The reply to a call on a table, which has a result only if it is a query. -/
def Reply.ofResult : Option QueryResult → Reply
  | some result => .rows result
  | none => .done

/-- The database in which a table stands for the one of its name. -/
def Database.withTable (d : Database) (t : Table) : Database :=
  { d with tables := d.tables.map fun other => if other.name = t.name then t else other }

/-- The catalog in which a table stands for the one of its name in the current database. -/
def Catalog.withTable (c : Catalog) (t : Table) : Catalog :=
  match c.database with
  | .ok d => { c with databases := c.databases.insert d.name (d.withTable t) }
  | .error _ => c

/-- The same databases and tables in the same order and the same current database, where one table
of the current database alone may differ. -/
structure Catalog.AgreeBeside (name : String) (c c' : Catalog) : Prop where
  current : c'.current = c.current
  databases : c'.databaseNames = c.databaseNames
  elsewhere : ∀ database, c.current ≠ some database →
    c'.databases.find? database = c.databases.find? database
  here : ∃ d d', c.database = .ok d ∧ c'.database = .ok d' ∧ d'.name = d.name ∧
    d'.tableNames = d.tableNames ∧
    ∀ (i : Nat) (t : Table), t.name ≠ name → (d'.tables[i]? = some t ↔ d.tables[i]? = some t)

end ColumnStore
