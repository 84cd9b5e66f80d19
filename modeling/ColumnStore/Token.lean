/-!
# Tokens

The lexical units of the statement language. Keywords and symbols are closed lists. A token keeps
its text as written, a string literal without its quotes and with doubled quotes halved, and the
position of its first character in the statement, counted in characters.
-/

namespace ColumnStore

inductive Keyword
  | create | drop | use | «show» | alter | add | remove | column | «to» | «in» | «for» | set
  | table | database | truncate | rename | modify | default | «from» | values | into | insert
  | select | tables | databases | current | none | int | varchar | null
  deriving DecidableEq, Repr

namespace Keyword

def all : List Keyword :=
  [create, drop, use, «show», alter, add, remove, column, «to», «in», «for», set, table, database,
   truncate, rename, modify, default, «from», values, into, insert, select, tables, databases,
   current, none, int, varchar, null]

def spelling : Keyword → String
  | create => "CREATE"
  | drop => "DROP"
  | use => "USE"
  | «show» => "SHOW"
  | alter => "ALTER"
  | add => "ADD"
  | remove => "REMOVE"
  | column => "COLUMN"
  | «to» => "TO"
  | «in» => "IN"
  | «for» => "FOR"
  | set => "SET"
  | table => "TABLE"
  | database => "DATABASE"
  | truncate => "TRUNCATE"
  | rename => "RENAME"
  | modify => "MODIFY"
  | default => "DEFAULT"
  | «from» => "FROM"
  | values => "VALUES"
  | into => "INTO"
  | insert => "INSERT"
  | select => "SELECT"
  | tables => "TABLES"
  | databases => "DATABASES"
  | current => "CURRENT"
  | none => "NONE"
  | int => "INT"
  | varchar => "VARCHAR"
  | null => "NULL"

/-- The keyword spelled by a word in upper case. -/
def ofSpelling? (word : String) : Option Keyword := all.find? (·.spelling == word)

theorem mem_all (k : Keyword) : k ∈ all := by
  cases k <;> decide

end Keyword

inductive Symbol
  | leftParen | rightParen | comma | semicolon | star
  deriving DecidableEq, Repr

namespace Symbol

def char : Symbol → Char
  | leftParen => '('
  | rightParen => ')'
  | comma => ','
  | semicolon => ';'
  | star => '*'

def ofChar? : Char → Option Symbol
  | '(' => some leftParen
  | ')' => some rightParen
  | ',' => some comma
  | ';' => some semicolon
  | '*' => some star
  | _ => none

theorem ofChar?_eq_some_iff {c : Char} {s : Symbol} : ofChar? c = some s ↔ c = s.char := by
  constructor
  · intro h
    unfold ofChar? at h
    split at h <;> simp_all [char] <;> subst h <;> rfl
  · rintro rfl
    cases s <;> rfl

end Symbol

namespace Token

inductive Kind
  | keyword (word : Keyword)
  | symbol (symbol : Symbol)
  | identifier
  | number
  | string
  | endOfInput
  deriving DecidableEq, Repr

/-- The kind's name in a message. -/
def Kind.label : Kind → String
  | keyword word => word.spelling
  | symbol s => String.ofList ['\'', s.char, '\'']
  | identifier => "identifier"
  | number => "number"
  | string => "string literal"
  | endOfInput => "end of input"

end Token

/-- A token without its position. -/
structure Token.Lexeme where
  kind : Token.Kind
  text : String
  deriving DecidableEq, Repr

structure Token extends Token.Lexeme where
  position : Nat
  deriving DecidableEq, Repr

namespace Token

/-- A string literal is written with every quote doubled. -/
def doubleQuotes (text : List Char) : List Char :=
  text.flatMap fun c => if c == '\'' then ['\'', '\''] else [c]

namespace Lexeme

/-- The characters of the statement that a token stands for. -/
def spelling (l : Lexeme) : List Char :=
  match l.kind with
  | .string => '\'' :: doubleQuotes l.text.toList ++ ['\'']
  | _ => l.text.toList

def ofKeyword (word : Keyword) : Lexeme := ⟨.keyword word, word.spelling⟩

def ofSymbol (s : Symbol) : Lexeme := ⟨.symbol s, String.ofList [s.char]⟩

end Lexeme

end Token

end ColumnStore
