import ColumnStore.Catalog.Execute

/-!
# Two ways to a reply

A catalog by itself executes every statement and hands those that only read on to `query?`. A shared
catalog decides first, by the kind of the statement, whether it asks `query?` or executes. The first
way is given here with that call, so that it has no outcome where `query?` has no answer, and both
are given for a list of texts that one client runs in turn.
-/

namespace ColumnStore.Catalog

/-- Executes a statement, where `query?` replies to those that only read. -/
def execute? (c : Catalog) : Statement → Option (Outcome Fault Catalog Reply)
  | .showDatabases => read .showDatabases
  | .showTables => read .showTables
  | .showCurrentDatabase => read .showCurrentDatabase
  | .select table projection => read (.select table projection)
  | s => some (c.execute s)
where
  read (s : Statement) : Option (Outcome Fault Catalog Reply) := (c.query? s).map (⟨·, c⟩)

/-- Runs texts in turn. The answers come with the catalog at the end. -/
def runEach (c : Catalog) : List String → List (Except Rejection Reply) × Catalog
  | [] => ([], c)
  | text :: rest =>
    let o := c.run text
    let (answers, last) := o.state.runEach rest
    (o.answer :: answers, last)

/-- Runs texts in turn on a shared catalog. There is no result if a text has no outcome. -/
def runEachShared? (c : Catalog) :
    List String → Option (List (Except Rejection Reply) × Catalog)
  | [] => some ([], c)
  | text :: rest => do
    let o ← c.runShared? text
    let (answers, last) ← o.state.runEachShared? rest
    return (o.answer :: answers, last)

end ColumnStore.Catalog
