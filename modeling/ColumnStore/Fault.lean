import ColumnStore.ColumnType
import ColumnStore.Text.Quoted
import ColumnStore.Value

/-!
# Faults

Why an operation on databases, tables or columns is refused, with the data its message names.
The wording of each fault is one function.
-/

namespace ColumnStore

inductive ObjectKind
  | database | table | column
  deriving DecidableEq, Repr

def ObjectKind.label : ObjectKind → String
  | database => "database"
  | table => "table"
  | column => "column"

/-- What stood where a column wanted a value of its type. -/
inductive Misfit
  | numberLiteral
  | stringLiteral
  | defaultKeyword
  | value (kind : Value.Kind)
  | unreadable (text : String)
  deriving DecidableEq, Repr

def Misfit.label : Misfit → String
  | numberLiteral => "number literal"
  | stringLiteral => "string literal"
  | defaultKeyword => "DEFAULT"
  | value kind => kind.label
  | unreadable text => "string '" ++ text ++ "'"

inductive Fault
  | alreadyExists (kind : ObjectKind) (name : String)
  | notFound (kind : ObjectKind) (name : String)
  | invalidName (kind : ObjectKind) (name : String)
  | columnCountMismatch (table : String) (expected found : Nat)
  | columnMismatch (table : String) (expected found : List String)
  | valueTooLong (column : String) (limit actual : Nat)
  | typeMismatch (column : String) (expected : ColumnType) (found : Misfit)
  | noDefault (column : String)
  | invalidLength (length : UInt32)
  | emptySchema (table : String)
  | noActiveDatabase
  | databaseInUse (name : String)
  deriving DecidableEq, Repr

namespace Fault

open Text

def message : Fault → String
  | alreadyExists kind name => kind.label ++ " '" ++ name ++ "' already exists"
  | notFound kind name => kind.label ++ " '" ++ name ++ "' does not exist"
  | invalidName kind name => "invalid " ++ kind.label ++ " name '" ++ name ++ "'"
  | columnCountMismatch table expected found =>
    "table '" ++ table ++ "' has " ++ toString expected ++ " columns but " ++ toString found ++
      " were given"
  | columnMismatch table expected found =>
    "columns of table '" ++ table ++ "' are " ++ quotedNames expected ++ ", got " ++
      quotedNames found
  | valueTooLong column limit actual =>
    "value for column '" ++ column ++ "' is " ++ toString actual ++
      " characters long, limit is " ++ toString limit
  | typeMismatch column expected found =>
    "column '" ++ column ++ "' expects " ++ expected.render ++ ", found " ++ found.label
  | noDefault column => "column '" ++ column ++ "' has no default value"
  | invalidLength length =>
    "VARCHAR length must be between 1 and 255, got " ++ toString length.toNat
  | emptySchema table => "table '" ++ table ++ "' must keep at least one column"
  | noActiveDatabase => "no database selected, run USE <database> first"
  | databaseInUse name => "database '" ++ name ++ "' is in use, run USE NONE first"

end Fault

end ColumnStore
