import Mathlib.Data.List.Forall2
import ColumnStore.Statement
import ColumnStore.Token

/-!
# The grammar of statements

Each statement is written in one shape, a list of terminals that stand for one token each. Names
and literals are terminals with their value: a number is written by any token whose text reads as
it. A few statements have no text: those with an empty list, with a stored default inside a
definition, with lists of different lengths in an insert, or with the DEFAULT literal anywhere but
among the values of an insert.
-/

namespace ColumnStore

inductive Terminal
  | keyword (word : Keyword)
  | symbol (symbol : Symbol)
  | name (name : String)
  | length (limit : UInt32)
  | literal (literal : Literal)
  deriving DecidableEq, Repr

namespace Terminal

/-- Whether a token stands for a terminal. The texts of keywords and symbols are not looked at. -/
def Matches : Terminal → Token → Prop
  | keyword word, token => token.kind = .keyword word
  | symbol s, token => token.kind = .symbol s
  | name text, token => token.kind = .identifier ∧ token.text = text
  | length limit, token =>
    token.kind = .number ∧ Decimal.readUInt32? token.text = some limit ∧
      ColumnType.isValidLength limit = true
  | literal (.number n), token => token.kind = .number ∧ Decimal.readInt64? token.text = some n
  | literal (.string text), token => token.kind = .string ∧ token.text = text
  | literal .null, token => token.kind = .keyword .null
  | literal .default, token => token.kind = .keyword .default

instance : DecidableRel Matches
  | keyword word, token => inferInstanceAs (Decidable (token.kind = .keyword word))
  | symbol s, token => inferInstanceAs (Decidable (token.kind = .symbol s))
  | name text, token => inferInstanceAs (Decidable (token.kind = .identifier ∧ token.text = text))
  | length _, token => inferInstanceAs (Decidable (token.kind = .number ∧ _ ∧ _))
  | literal (.number _), token => inferInstanceAs (Decidable (token.kind = .number ∧ _))
  | literal (.string text), token =>
    inferInstanceAs (Decidable (token.kind = .string ∧ token.text = text))
  | literal .null, token => inferInstanceAs (Decidable (token.kind = .keyword .null))
  | literal .default, token => inferInstanceAs (Decidable (token.kind = .keyword .default))

/-- Items with a comma between two. -/
def separated (items : List (List Terminal)) : List Terminal :=
  [symbol .comma].intercalate items

def parenthesized (items : List (List Terminal)) : List Terminal :=
  symbol .leftParen :: separated items ++ [symbol .rightParen]

def ofNames (names : List String) : List Terminal := parenthesized (names.map ([name ·]))

def ofLiterals (literals : List Literal) : List Terminal :=
  parenthesized (literals.map ([literal ·]))

end Terminal

open Terminal (separated parenthesized ofNames ofLiterals)

def ColumnType.terminals : ColumnType → List Terminal
  | integer => [.keyword .int]
  | varchar limit => [.keyword .varchar, .symbol .leftParen, .length limit, .symbol .rightParen]

def Column.Definition.terminals (d : Definition) : List Terminal := .name d.name :: d.type.terminals

def Projection.terminals : Projection → List Terminal
  | all => [.symbol .star]
  | columns names => separated (names.map ([.name ·]))

namespace Statement

def ofDefinitions (columns : List Column.Definition) : List Terminal :=
  parenthesized (columns.map (·.terminals))

def inTable (table : String) : List Terminal := [.keyword .«in», .keyword .table, .name table]

/-- The list of defaults that may end an ADD COLUMN statement. -/
def ofDefaults : Option (List Literal) → List Terminal
  | some literals => .keyword .default :: ofLiterals literals
  | none => []

/-- The shape of a statement before its semicolon. -/
def terminals : Statement → List Terminal
  | createDatabase name => [.keyword .create, .keyword .database, .name name]
  | dropDatabase name => [.keyword .drop, .keyword .database, .name name]
  | useDatabase name => [.keyword .use, .name name]
  | leaveDatabase => [.keyword .use, .keyword .none]
  | renameDatabase old new =>
    [.keyword .alter, .keyword .database, .name old, .keyword .rename, .name new]
  | showDatabases => [.keyword .«show», .keyword .databases]
  | showTables => [.keyword .«show», .keyword .tables]
  | showCurrentDatabase => [.keyword .«show», .keyword .current, .keyword .database]
  | createTable name columns =>
    [.keyword .create, .keyword .table, .name name] ++ ofDefinitions columns
  | dropTable name => [.keyword .drop, .keyword .table, .name name]
  | renameTable old new => [.keyword .alter, .keyword .table, .name old, .keyword .rename, .name new]
  | truncateTable table => [.keyword .truncate, .keyword .table, .name table]
  | insert table columns values =>
    [.keyword .insert, .keyword .into, .name table] ++ ofNames columns ++
      [.keyword .values] ++ ofLiterals values
  | addColumns table columns defaults =>
    [.keyword .add, .keyword .column] ++ ofDefinitions columns ++
      [.keyword .«to», .keyword .table, .name table] ++ ofDefaults defaults
  | removeColumns table columns =>
    [.keyword .remove, .keyword .«from», .keyword .table, .name table] ++ ofNames columns
  | renameColumn table old new =>
    [.keyword .rename, .keyword .column, .name old, .keyword .«to», .name new] ++ inTable table
  | modifyColumns table columns =>
    [.keyword .modify, .keyword .column] ++ ofDefinitions columns ++ inTable table
  | setDefault table column value =>
    [.keyword .set, .keyword .column, .name column] ++ inTable table ++
      [.keyword .default, .literal value]
  | dropDefault table column =>
    [.keyword .drop, .keyword .default, .keyword .«for», .keyword .column, .name column] ++
      inTable table
  | select table projection =>
    [.keyword .select] ++ projection.terminals ++ [.keyword .«from», .name table]

/-- Definitions that a statement can write: at least one, and none with a stored default. -/
def PlainDefinitions (columns : List Column.Definition) : Prop :=
  columns ≠ [] ∧ ∀ d ∈ columns, d.default = none

instance (columns : List Column.Definition) : Decidable (PlainDefinitions columns) :=
  inferInstanceAs (Decidable (_ ∧ _))

/-- Literals that a statement can write outside an insert. -/
def StoredLiterals (literals : List Literal) : Prop := literals ≠ [] ∧ .default ∉ literals

instance (literals : List Literal) : Decidable (StoredLiterals literals) :=
  inferInstanceAs (Decidable (_ ∧ _))

/-- The statements that can be written. -/
def Grammatical : Statement → Prop
  | createTable _ columns | modifyColumns _ columns => PlainDefinitions columns
  | insert _ columns values => columns ≠ [] ∧ values.length = columns.length
  | addColumns _ columns defaults =>
    PlainDefinitions columns ∧ ∀ literals, defaults = some literals → StoredLiterals literals
  | removeColumns _ columns => columns ≠ []
  | setDefault _ _ value => value ≠ .default
  | select _ (.columns names) => names ≠ []
  | _ => True

instance : DecidablePred Grammatical
  | createTable _ columns | modifyColumns _ columns =>
    inferInstanceAs (Decidable (PlainDefinitions columns))
  | insert _ columns values =>
    inferInstanceAs (Decidable (columns ≠ [] ∧ values.length = columns.length))
  | addColumns _ columns defaults =>
    inferInstanceAs (Decidable (PlainDefinitions columns ∧
      ∀ literals ∈ defaults, StoredLiterals literals))
  | removeColumns _ columns => inferInstanceAs (Decidable (columns ≠ []))
  | setDefault _ _ value => inferInstanceAs (Decidable (value ≠ .default))
  | select _ (.columns names) => inferInstanceAs (Decidable (names ≠ []))
  | select _ .all | createDatabase _ | dropDatabase _ | useDatabase _ | leaveDatabase
  | renameDatabase _ _ | showDatabases | showTables | showCurrentDatabase | dropTable _
  | renameTable _ _ | truncateTable _ | renameColumn _ _ _ | dropDefault _ _ => .isTrue trivial

/-- Whether tokens write a statement and the semicolon that ends it, and nothing else. -/
def IsWrittenBy (s : Statement) (tokens : List Token) : Prop :=
  s.Grammatical ∧ List.Forall₂ Terminal.Matches (s.terminals ++ [.symbol .semicolon]) tokens

instance (s : Statement) (tokens : List Token) : Decidable (s.IsWrittenBy tokens) :=
  inferInstanceAs (Decidable (_ ∧ _))

end Statement

/-- The tokens before the first end of the input, if there is one. -/
def Token.beforeEnd (tokens : List Token) : List Token :=
  tokens.takeWhile (·.kind ≠ .endOfInput)

/-- The tokens up to and including the first end of the input, or all if there is none. -/
def Token.throughEnd (tokens : List Token) : List Token :=
  tokens.take ((beforeEnd tokens).length + 1)

end ColumnStore
