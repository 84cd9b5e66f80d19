import ColumnStore.Table.Call

/-!
# New types, column by column

A list of definitions gives the columns it names new types. Which values can be brought to a type,
what then stands in the columns, and the first fault of a list that is refused are given here for
each value and each column on its own, without building a column.
-/

namespace ColumnStore

namespace ColumnType

/-- A text as the value of a column, if it is not longer than the column allows. -/
def fitted? (limit : UInt32) (s : String) : Option Value :=
  if s.length ≤ limit.toNat then some (.text s) else none

/-- A value brought to a type, if it can be. NULL stays, an integer is written in decimal, and a
text is read only as a run of digits. -/
def recast? : ColumnType → Value → Option Value
  | _, .null => some .null
  | integer, .integer n => some (.integer n)
  | integer, .text s => (Decimal.readPlainInt64? s).map .integer
  | varchar limit, .integer n => fitted? limit (Decimal.render n)
  | varchar limit, .text s => fitted? limit s

end ColumnType

/-- What is cast when a column takes a new type: the stored default, then the values in turn. -/
def Column.contents (c : Column) : List Value := c.definition.default.toList ++ c.values

/-- The integers that a column holds, that of its default first. -/
def Column.integers (c : Column) : List Int64 := c.contents.filterMap Value.integer?

/-- A column with another type: the name stays, and the default and every value are recast. -/
structure Column.Recast (type : ColumnType) (old new : Column) : Prop where
  name : new.definition.name = old.definition.name
  kind : new.definition.type = type
  default : old.definition.default.map type.recast? = new.definition.default.map some
  values : old.values.map type.recast? = new.values.map some

namespace Table

variable (t : Table) (definitions : List Column.Definition)

/-- A table some of whose columns took new types. The defaults of the definitions are not used. -/
structure Retyped (t' : Table) : Prop where
  name : t'.name = t.name
  rowCount : t'.rowCount = t.rowCount
  width : t'.columns.length = t.columns.length
  others : ∀ i, (∀ d ∈ definitions, t.position? d.name ≠ some i) → t'.columns[i]? = t.columns[i]?
  targets : ∀ d ∈ definitions, ∀ i, t.position? d.name = some i →
    ∃ old new, t.columns[i]? = some old ∧ t'.columns[i]? = some new ∧ old.Recast d.type new

/-- Why a column cannot take the type of a definition: the type is not valid, or the first of the
contents that cannot be cast. -/
def retypeFault? (d : Column.Definition) : Option Fault :=
  (t.column? d.name).bind fun c =>
    (refusal? d.type.check).or
      (c.contents.findSome? fun value =>
        refusal? (Column.Definition.cast ⟨c.definition.name, d.type, none⟩ value))

/-- Why new types are refused, if they are: for the first name that is unknown, then for a column
that is named twice, then for the first definition that its column cannot take. -/
def modifyFault? : Option Fault :=
  let names := definitions.map (·.name)
  match names.find? fun name => (t.position? name).isNone with
  | some unknown => some (.notFound .column unknown)
  | none =>
    if (names.map t.position?).Nodup then definitions.findSome? t.retypeFault?
    else some (.columnMismatch t.name t.columnNames names)

end Table

end ColumnStore
