import ColumnStore.Table.Partial

/-!
# New columns, definition by definition

A list of definitions joins the columns of a table or makes a new one. What is wrong with a
definition is given here for each position of the list on its own: with the definition by itself,
or with its name beside the existing ones and those in front of it.
-/

namespace ColumnStore

/-- What is wrong with a definition by itself: its name, else its type, else its default. -/
def Column.Definition.fault? (d : Definition) : Option Fault :=
  (refusal? (checkName .column d.name)).or
    ((refusal? d.type.check).or (d.default.bind fun value => refusal? (d.check value)))

namespace Table

variable (existing new : List Column.Definition)

/-- What is wrong at a position of the list. A clash of two names is a fault of the later one. -/
def newColumnFaultAt? : Column.Definition × Nat → Option Fault
  | (d, i) =>
    d.fault?.or <|
      if ∃ other ∈ existing ++ new.take i, other.isNamed d.name = true then
        some (.alreadyExists .column d.name)
      else none

/-- Why new definitions are refused, if they are: because there are none, else for the first of
them at which something is wrong. -/
def newColumnsFault? (table : String) : Option Fault :=
  if new = [] then some (.emptySchema table)
  else new.zipIdx.findSome? (newColumnFaultAt? existing new)

/-- The defaults that are given for new columns: none at all, or for each a literal it takes. -/
def Provides : Option (List Literal) → Prop
  | none => True
  | some literals => literals.length = new.length ∧ ∀ pair ∈ new.zip literals, pair.1.Takes pair.2

end Table

end ColumnStore
