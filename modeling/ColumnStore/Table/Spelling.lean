import Mathlib.Data.List.Forall2
import ColumnStore.Table.Call

/-!
# Spellings of column names

A column is meant by every name that has the fold of its own. Two calls that spell columns
differently are put side by side here. What they answer may differ where a fault repeats a name that
was given, and what they leave may differ where a name is given to a column.
-/

namespace ColumnStore

namespace Text

/-- Two spellings of one name. -/
def SameName (name name' : String) : Prop := fold name = fold name'

instance : DecidableRel SameName := fun _ _ => inferInstanceAs (Decidable (_ = _))

def folded (name : String) : String := String.ofList (fold name)

end Text

open Text (SameName)

/-- The fault with the fold of each name of a column in place of the name. -/
def Fault.folded : Fault → Fault
  | alreadyExists .column name => alreadyExists .column (Text.folded name)
  | notFound .column name => notFound .column (Text.folded name)
  | invalidName .column name => invalidName .column (Text.folded name)
  | columnMismatch table expected found =>
    columnMismatch table (expected.map Text.folded) (found.map Text.folded)
  | valueTooLong column limit actual => valueTooLong (Text.folded column) limit actual
  | typeMismatch column expected found => typeMismatch (Text.folded column) expected found
  | noDefault column => noDefault (Text.folded column)
  | other => other

/-- Two computations that give related results, or are refused for one fault up to the spelling of
columns. -/
inductive SameUpToSpelling {α β : Type} (R : α → β → Prop) : Except Fault α → Except Fault β → Prop
  | answered {a : α} {b : β} (related : R a b) : SameUpToSpelling R (.ok a) (.ok b)
  | refused {e e' : Fault} (same : e.folded = e'.folded) : SameUpToSpelling R (.error e) (.error e')

namespace Column

/-- The column under another name. -/
def named (c : Column) (name : String) : Column :=
  { c with definition := { c.definition with name } }

/-- One definition under two spellings of its name. -/
structure Definition.Respelled (d d' : Definition) : Prop where
  name : SameName d.name d'.name
  type : d.type = d'.type
  default : d.default = d'.default

end Column

namespace Table

/-- The same table, except that a column that bears the first name of a pair in one of the two bears
the second name of the pair in the other. -/
structure DiffersIn (pairs : List (String × String)) (t t' : Table) : Prop where
  name : t.name = t'.name
  rowCount : t.rowCount = t'.rowCount
  columns : List.Forall₂ (fun c c' =>
    c = c' ∨ ∃ pair ∈ pairs, c.definition.name = pair.1 ∧ c.named pair.2 = c') t.columns t'.columns

namespace Call

/-- The names that a call gives to columns. -/
def introduced : Call → List String
  | addColumns new _ => new.map (·.name)
  | renameColumn _ new => [new]
  | _ => []

/-- Two calls that are the same but for the spelling of the columns that they name. -/
inductive Respelled : Call → Call → Prop
  | same (call : Call) : Respelled call call
  | insertRow {names names' : List String} (literals : List Literal)
      (spelled : List.Forall₂ SameName names names') :
      Respelled (.insertRow names literals) (.insertRow names' literals)
  | insert {names names' : List String} (literals : List Literal)
      (spelled : List.Forall₂ SameName names names') :
      Respelled (.insert names literals) (.insert names' literals)
  | select {names names' : List String} (spelled : List.Forall₂ SameName names names') :
      Respelled (.select (.columns names)) (.select (.columns names'))
  | addColumns {new new' : List Column.Definition} (defaults : Option (List Literal))
      (spelled : List.Forall₂ Column.Definition.Respelled new new') :
      Respelled (.addColumns new defaults) (.addColumns new' defaults)
  | removeColumns {names names' : List String} (spelled : List.Forall₂ SameName names names') :
      Respelled (.removeColumns names) (.removeColumns names')
  | renameColumn {old old' new new' : String} (spelled : SameName old old')
      (given : SameName new new') : Respelled (.renameColumn old new) (.renameColumn old' new')
  | modifyColumns {definitions definitions' : List Column.Definition}
      (spelled : List.Forall₂ Column.Definition.Respelled definitions definitions') :
      Respelled (.modifyColumns definitions) (.modifyColumns definitions')
  | setDefault {name name' : String} (literal : Literal) (spelled : SameName name name') :
      Respelled (.setDefault name literal) (.setDefault name' literal)
  | dropDefault {name name' : String} (spelled : SameName name name') :
      Respelled (.dropDefault name) (.dropDefault name')

end Call

end Table

end ColumnStore
