import ColumnStore.Catalog.Execute
import ColumnStore.Table.Rows

/-!
# Clients of a shared catalog

Several clients send insert statements to one table of a shared catalog, each client its own list in
its own order. The catalog executes one statement after the other, and each statement as a whole, so
what it executes is an interleaving of the lists. Which row a statement adds is said here from the
name and the definitions of the table alone.
-/

namespace ColumnStore

/-- A list that is drawn from the fronts of several lists until all of these are used up. -/
inductive Interleaving {α : Type} : List (List α) → List α → Prop
  | done {sources : List (List α)} (spent : ∀ source ∈ sources, source = []) :
      Interleaving sources []
  | take {sources : List (List α)} {i : Nat} {a : α} {rest merged : List α}
      (front : sources[i]? = some (a :: rest)) (later : Interleaving (sources.set i rest) merged) :
      Interleaving sources (a :: merged)

/-- What an insert statement gives: names of columns and the literals for them. -/
structure Insertion where
  columns : List String
  values : List Literal
  deriving DecidableEq, Repr

def Insertion.into (i : Insertion) (table : String) : Statement := .insert table i.columns i.values

/-- The values of the literals in the order of the definitions. A definition that the insertion
leaves out takes its default, or NULL where it has none. -/
def Insertion.convert (i : Insertion) (t : RowTable) : Except Fault Row := do
  if i.columns.length ≠ i.values.length then
    throw (.columnCountMismatch t.name i.columns.length i.values.length)
  let assigned ← t.assign i.columns [] (i.columns.zip i.values)
  let literals := t.definitions.zipIdx.map fun (d, position) =>
    (assigned.lookup position).getD (if d.default.isSome then .default else .null)
  (t.definitions.zip literals).mapM fun (d, literal) => d.convert literal

/-- The row that an insertion adds to a table, if it is accepted. -/
def Insertion.row? (i : Insertion) (t : RowTable) : Option Row := (i.convert t).toOption

namespace Catalog

/-- Executes statements on a shared catalog in turn. The answers come with the catalog at the end;
there is no result if a statement has no outcome. -/
def dispatchEach? (c : Catalog) : List Statement → Option (List (Except Fault Reply) × Catalog)
  | [] => some ([], c)
  | s :: rest => do
    let o ← c.dispatch? s
    let (answers, last) ← o.state.dispatchEach? rest
    return (o.answer :: answers, last)

/-- The answer to a statement on a shared catalog. -/
def reply? (c : Catalog) (s : Statement) : Option (Except Fault Reply) :=
  (c.dispatch? s).map (·.answer)

end Catalog

end ColumnStore
