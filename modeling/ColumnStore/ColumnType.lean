/-!
# Column types

A column holds 64-bit integers or texts up to a declared length in characters. A type may be
written down with any length; only the lengths from 1 to 255 are valid.
-/

namespace ColumnStore

def maxVarcharLength : UInt32 := 255

inductive ColumnType
  | integer
  | varchar (length : UInt32)
  deriving DecidableEq, Repr

namespace ColumnType

def render : ColumnType → String
  | integer => "INT"
  | varchar length => "VARCHAR(" ++ toString length.toNat ++ ")"

def isValidLength (length : UInt32) : Bool := 1 ≤ length && length ≤ maxVarcharLength

end ColumnType

end ColumnStore
