import ColumnStore.Fault
import ColumnStore.Text.Blank

/-!
# Valid names and types

Databases, tables and columns share one rule for names: a name is neither blank nor dotted.
-/

namespace ColumnStore

def isValidName (name : String) : Bool :=
  !Text.isBlankText name && !name.toList.contains '.'

def checkName (kind : ObjectKind) (name : String) : Except Fault Unit :=
  if isValidName name then .ok () else .error (.invalidName kind name)

namespace ColumnType

def check : ColumnType → Except Fault Unit
  | integer => .ok ()
  | varchar length => if isValidLength length then .ok () else .error (.invalidLength length)

/-- The text type of a declared length. -/
def ofLength (length : UInt32) : Except Fault ColumnType := do
  check (varchar length)
  return varchar length

end ColumnType

end ColumnStore
