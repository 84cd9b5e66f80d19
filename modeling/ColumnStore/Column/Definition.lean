import ColumnStore.Text.Case
import ColumnStore.Validity

/-!
# Column definitions

A definition is a column's name, its type and perhaps a stored default; a stored NULL is a
default too. Column names agree when their lower case folds do. A definition decides which
literals and which values fit the column, and how a stored value changes under another type.
Nothing here asks that the definition itself is valid.
-/

namespace ColumnStore

structure Column.Definition where
  name : String
  type : ColumnType
  default : Option Value
  deriving DecidableEq, Repr

namespace Column.Definition

def isNamed (d : Definition) (name : String) : Bool :=
  Text.fold d.name == Text.fold name

/-- The value that existing rows take when the column is added without a default. -/
def zeroValue (d : Definition) : Value :=
  match d.type with
  | .integer => .integer 0
  | .varchar _ => .text ""

def mismatch (d : Definition) (found : Misfit) : Fault :=
  .typeMismatch d.name d.type found

/-- Whether a value fits the column: NULL always, else by type and length in characters. -/
def check (d : Definition) (value : Value) : Except Fault Unit :=
  match value, d.type with
  | .null, _ => .ok ()
  | .integer _, .integer => .ok ()
  | .text s, .varchar limit =>
    if s.length ≤ limit.toNat then .ok ()
    else .error (.valueTooLong d.name limit.toNat s.length)
  | .integer _, .varchar _ => .error (d.mismatch (.value .integer))
  | .text _, .integer => .error (d.mismatch (.value .text))

/-- The value of a literal. The stored default is taken as it is. -/
def convert (d : Definition) (literal : Literal) : Except Fault Value :=
  match literal, d.type with
  | .null, _ => .ok .null
  | .default, _ =>
    match d.default with
    | some value => .ok value
    | none => .error (.noDefault d.name)
  | .number n, .integer => .ok (.integer n)
  | .number _, .varchar _ => .error (d.mismatch .numberLiteral)
  | .string _, .integer => .error (d.mismatch .stringLiteral)
  | .string s, .varchar _ => (d.check (.text s)).map fun _ => .text s

/-- A stored value brought to the type of this definition. An integer becomes its decimal text; a
text becomes an integer only when it is a run of digits in range. -/
def cast (target : Definition) (value : Value) : Except Fault Value := do
  let converted ← match value, target.type with
    | .integer n, .varchar _ => .ok (.text (Decimal.render n))
    | .text s, .integer =>
      match Decimal.readPlainInt64? s with
      | some n => .ok (.integer n)
      | none => .error (target.mismatch (.unreadable s))
    | kept, _ => .ok kept
  target.check converted
  return converted

/-- A stored default under another type; without one there is none. -/
def castDefault (target : Definition) : Option Value → Except Fault (Option Value)
  | some value => (target.cast value).map some
  | none => .ok none

end Column.Definition

end ColumnStore
