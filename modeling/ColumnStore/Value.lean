import ColumnStore.Text.Decimal

/-!
# Values and literals

A stored value is NULL, a signed 64-bit integer or a text. A literal is what a statement writes
where a value is wanted; whether it fits is decided only against a column. The DEFAULT literal
asks for the default the column stores.
-/

namespace ColumnStore

inductive Value
  | null
  | integer (n : Int64)
  | text (s : String)
  deriving DecidableEq, Repr

abbrev Row := List Value

namespace Value

inductive Kind
  | null | integer | text
  deriving DecidableEq, Repr

/-- The kind's name in a message. -/
def Kind.label : Kind → String
  | null => "NULL"
  | integer => "integer"
  | text => "string"

def kind : Value → Kind
  | null => .null
  | integer _ => .integer
  | text _ => .text

def isNull : Value → Bool
  | null => true
  | _ => false

def integer? : Value → Option Int64
  | integer n => some n
  | _ => none

def text? : Value → Option String
  | text s => some s
  | _ => none

/-- The text of the value in a query result, where a text stands without quotes. -/
def render : Value → String
  | null => "NULL"
  | integer n => Decimal.render n
  | text s => s

end Value

inductive Literal
  | number (n : Int64)
  | string (s : String)
  | null
  | default
  deriving DecidableEq, Repr

/-- The literal that writes a value. -/
def Value.literal : Value → Literal
  | null => .null
  | integer n => .number n
  | text s => .string s

end ColumnStore
