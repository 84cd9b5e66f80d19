import ColumnStore.Table.Call

/-!
# Insertions column by column

An insertion lists names of columns with a literal for each, in any order. Whether a table takes it,
the row that is added and the reason for a refusal are given here for each column on its own: the
literal of a column is the one that is listed under its name, and nothing is assigned to positions.
-/

namespace ColumnStore

namespace Column.Definition

/-- The literals that a column takes. -/
def Takes (d : Definition) : Literal → Prop
  | .null => True
  | .number _ => d.type = .integer
  | .string s => ∃ limit, d.type = .varchar limit ∧ s.length ≤ limit.toNat
  | .default => d.default.isSome = true

/-- The value of a literal that the column takes. -/
def valueOf (d : Definition) : Literal → Value
  | .null => .null
  | .number n => .integer n
  | .string s => .text s
  | .default => d.default.getD .null

/-- The literal that is listed for a column. -/
def listed? (d : Definition) (pairs : List (String × Literal)) : Option Literal :=
  (pairs.find? fun (name, _) => d.isNamed name).map (·.2)

/-- The value of a column in the new row: that of the literal listed for it, else the default, else
NULL. -/
def newValue (d : Definition) (pairs : List (String × Literal)) : Value :=
  match d.listed? pairs with
  | some literal => d.valueOf literal
  | none => d.default.getD .null

end Column.Definition

namespace Table

def newRow (t : Table) (pairs : List (String × Literal)) : Row :=
  t.definitions.map (·.newValue pairs)

/-- What is wrong with one of the names: it denotes no column, or the column of a name before it. -/
def nameFaultAt? (t : Table) (names : List String) : String × Nat → Option Fault
  | (name, i) =>
    match t.position? name with
    | none => some (.notFound .column name)
    | some position =>
      if some position ∈ (names.take i).map t.position? then
        some (.columnMismatch t.name t.columnNames names)
      else none

/-- The fault of the first name that has one. -/
def nameFault? (t : Table) (names : List String) : Option Fault :=
  names.zipIdx.findSome? (t.nameFaultAt? names)

/-- The fault of the first column, in the order of the table, whose literal does not fit it. -/
def literalFault? (t : Table) (pairs : List (String × Literal)) : Option Fault :=
  t.definitions.findSome? fun d =>
    (d.listed? pairs).bind fun literal => refusal? (d.convert literal)

/-- Why an insertion is refused, if it is: for the lengths of the lists, then for a name, then for a
literal. -/
def insertFault? (t : Table) (names : List String) (literals : List Literal) : Option Fault :=
  if names.length ≠ literals.length then
    some (.columnCountMismatch t.name names.length literals.length)
  else (t.nameFault? names).or (t.literalFault? (names.zip literals))

/-- The insertions that are accepted. Nothing is asked of the columns that are left out. -/
structure Accepts (t : Table) (names : List String) (literals : List Literal) : Prop where
  count : names.length = literals.length
  known : ∀ name ∈ names, (t.position? name).isSome = true
  distinct : (names.map t.position?).Nodup
  fits : ∀ pair ∈ names.zip literals, ∀ c, t.column? pair.1 = some c →
    c.definition.Takes pair.2

end Table

end ColumnStore
