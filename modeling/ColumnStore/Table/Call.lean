import ColumnStore.Table.Insert
import ColumnStore.Table.Schema
import ColumnStore.Table.Select

/-!
# Calls on a table

An operation on a table with its arguments, as one value. A query answers with its result and the
other calls with nothing; a run makes one call after the other and goes on after a refused one.
-/

namespace ColumnStore.Table

inductive Call
  | insertRow (names : List String) (literals : List Literal)
  | insert (names : List String) (literals : List Literal)
  | select (projection : Projection)
  | truncate
  | addColumns (new : List Column.Definition) (defaults : Option (List Literal))
  | removeColumns (names : List String)
  | renameColumn (old new : String)
  | modifyColumns (definitions : List Column.Definition)
  | setDefault (name : String) (literal : Literal)
  | dropDefault (name : String)
  deriving DecidableEq, Repr

def Call.perform (t : Table) : Call → Outcome Fault Table (Option QueryResult)
  | insertRow names literals => done (t.insertRow names literals)
  | insert names literals => done (t.insert names literals)
  | select projection => ⟨(t.select projection).map some, t⟩
  | truncate => ⟨.ok none, t.truncate⟩
  | addColumns new defaults => done (.commit t (t.addColumns new defaults))
  | removeColumns names => done (.commit t (t.removeColumns names))
  | renameColumn old new => done (.commit t (t.renameColumn old new))
  | modifyColumns definitions => done (.commit t (t.modifyColumns definitions))
  | setDefault name literal => done (.commit t (t.setDefault name literal))
  | dropDefault name => done (.commit t (t.dropDefault name))
where
  done (o : Outcome Fault Table Unit) : Outcome Fault Table (Option QueryResult) :=
    o.map fun _ => none

/-- The table that a list of calls leaves behind, whichever of them are refused. -/
def after (t : Table) (calls : List Call) : Table :=
  calls.foldl (fun t call => (call.perform t).state) t

end ColumnStore.Table
