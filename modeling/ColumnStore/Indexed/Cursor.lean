import ColumnStore.Statement.Parser

/-!
# Parsing by position

The parsers once more, on the whole list of tokens and a position in it. Every read of a token is
by the position, which moves on as long as another token is left. There is no result for a read
outside the list, for the last position of a list without tokens, and for a loop that stops moving.
-/

namespace ColumnStore

/-- A parser that moves a position over a list of tokens. -/
abbrev Cursor := ReaderT (List Token) (StateT Nat (ExceptT SyntaxError Option))

namespace Cursor

open SyntaxError (Expected)

def current : Cursor Token := fun tokens position =>
  (tokens[position]?).map fun token => .ok (token, position)

/-- The last position of the list, which has one unless it is empty. -/
def lastPosition? (tokens : List Token) : Option Nat :=
  if 1 ≤ tokens.length then some (tokens.length - 1) else none

/-- Moves to the next token, and stays at the last one. -/
def advance : Cursor Unit := fun tokens position =>
  (lastPosition? tokens).map fun last => .ok ((), if position < last then position + 1 else position)

def fail {α : Type} (expected : Expected) : Cursor α := do
  throw (.atToken expected (← current))

/-- Takes the token at the position if `choose` has a value for it, and otherwise fails at it. -/
def accept {α : Type} (choose : Token → Except Expected α) : Cursor α := do
  match choose (← current) with
  | .error expected => fail expected
  | .ok a =>
    advance
    return a

/-- Takes the token at the position and goes on with what `choose` has for its kind. -/
def branch {α : Type} (choose : Token.Kind → Except Expected (Cursor α)) : Cursor α := do
  match choose (← current).kind with
  | .error expected => fail expected
  | .ok next =>
    advance
    next

def expect (kind : Token.Kind) : Cursor Unit := do
  if (← current).kind = kind then advance else fail (.kind kind)

def keyword (word : Keyword) : Cursor Unit := expect (.keyword word)

def identifier : Cursor String := do
  if (← current).kind ≠ .identifier then fail (.kind .identifier)
  else
    let name := (← current).text
    advance
    return name

/-- One round after another until a round is the last, and what all of them found. A round with no
fewer tokens left behind it has no result, as it would be made again without end. -/
def loop {α : Type} (round : Cursor (List α × Bool)) (tokens : List Token) (position : Nat) :
    ExceptT SyntaxError Option (List α × Nat) := do
  let ((found, more), stop) ← round tokens position
  if more then
    if _ : tokens.length - stop < tokens.length - position then
      let (later, finish) ← loop round tokens stop
      return (found ++ later, finish)
    else ExceptT.lift none
  else return (found, stop)
termination_by tokens.length - position

/-- The items of a list after its opening parenthesis. -/
def items {α : Type} (item : Cursor α) : Cursor (List α) :=
  loop do
    let a ← item
    match (← current).kind with
    | .symbol .rightParen =>
      advance
      return ([a], false)
    | .symbol .comma =>
      advance
      return ([a], true)
    | _ => fail .nextItem

def list {α : Type} (item : Cursor α) : Cursor (List α) := do
  expect (.symbol .leftParen)
  items item

/-- The further names of a list without parentheses, each after a comma. -/
def namesAfter : Cursor (List String) :=
  loop do
    if (← current).kind = .symbol .comma then
      advance
      return ([← identifier], true)
    else return ([], false)

def varcharLength : Cursor UInt32 := accept Parser.lengthOf

def columnType : Cursor ColumnType :=
  branch fun
    | .keyword .int => .ok (pure .integer)
    | .keyword .varchar => .ok do
      expect (.symbol .leftParen)
      let length ← varcharLength
      expect (.symbol .rightParen)
      return .varchar length
    | _ => .error .columnType

def columnDefinition : Cursor Column.Definition := do
  let name ← identifier
  let type ← columnType
  return ⟨name, type, none⟩

def storedLiteral : Cursor Literal := accept (Parser.literalOf .storedLiteral)

def insertedLiteral : Cursor Literal := accept Parser.insertedLiteralOf

def inTable : Cursor String := do
  keyword .«in»
  keyword .table
  identifier

def create : Cursor Statement := do
  keyword .create
  branch fun
    | .keyword .database => .ok do
      return .createDatabase (← identifier)
    | .keyword .table => .ok do
      let name ← identifier
      let columns ← list columnDefinition
      return .createTable name columns
    | _ => .error .createObject

def drop : Cursor Statement := do
  keyword .drop
  branch fun
    | .keyword .database => .ok do
      return .dropDatabase (← identifier)
    | .keyword .table => .ok do
      return .dropTable (← identifier)
    | .keyword .default => .ok do
      keyword .«for»
      keyword .column
      let column ← identifier
      let table ← inTable
      return .dropDefault table column
    | _ => .error .dropObject

def use : Cursor Statement := do
  keyword .use
  if (← current).kind = .keyword .none then
    advance
    return .leaveDatabase
  else
    let name ← identifier
    return .useDatabase name

def «show» : Cursor Statement := do
  keyword .«show»
  branch fun
    | .keyword .databases => .ok (pure .showDatabases)
    | .keyword .tables => .ok (pure .showTables)
    | .keyword .current => .ok do
      keyword .database
      return .showCurrentDatabase
    | _ => .error .showObject

def insert : Cursor Statement := do
  keyword .insert
  keyword .into
  let table ← identifier
  let columns ← list identifier
  keyword .values
  let start := (← current).position
  let values ← list insertedLiteral
  if values.length = columns.length then
    return .insert table columns values
  throw ⟨.values columns.length, .values values.length, start⟩

def alter : Cursor Statement := do
  keyword .alter
  let renamed ← accept Parser.renamingOf
  let old ← identifier
  keyword .rename
  let new ← identifier
  return renamed old new

/-- The optional list of defaults at the end of an ADD COLUMN statement. -/
def defaults : Cursor (Option (List Literal)) := do
  if (← current).kind = .keyword .default then
    advance
    return some (← list storedLiteral)
  return none

def add : Cursor Statement := do
  keyword .add
  keyword .column
  let columns ← list columnDefinition
  keyword .«to»
  keyword .table
  let table ← identifier
  let defaults ← defaults
  return .addColumns table columns defaults

def remove : Cursor Statement := do
  keyword .remove
  keyword .«from»
  keyword .table
  let table ← identifier
  let columns ← list identifier
  return .removeColumns table columns

def rename : Cursor Statement := do
  keyword .rename
  keyword .column
  let old ← identifier
  keyword .«to»
  let new ← identifier
  let table ← inTable
  return .renameColumn table old new

def modify : Cursor Statement := do
  keyword .modify
  keyword .column
  let columns ← list columnDefinition
  let table ← inTable
  return .modifyColumns table columns

def truncate : Cursor Statement := do
  keyword .truncate
  keyword .table
  return .truncateTable (← identifier)

def set : Cursor Statement := do
  keyword .set
  keyword .column
  let column ← identifier
  let table ← inTable
  keyword .default
  let value ← storedLiteral
  return .setDefault table column value

def projection : Cursor Projection := do
  if (← current).kind = .symbol .star then
    advance
    return .all
  else
    let name ← identifier
    let names ← namesAfter
    return .columns (name :: names)

def select : Cursor Statement := do
  keyword .select
  let projection ← projection
  keyword .«from»
  let table ← identifier
  return .select table projection

/-- A statement without its semicolon. Its first token says which one it is. -/
def statement : Cursor Statement := do
  match (← current).kind with
  | .keyword .create => create
  | .keyword .drop => drop
  | .keyword .use => use
  | .keyword .«show» => «show»
  | .keyword .insert => insert
  | .keyword .alter => alter
  | .keyword .add => add
  | .keyword .remove => remove
  | .keyword .rename => rename
  | .keyword .modify => modify
  | .keyword .truncate => truncate
  | .keyword .set => set
  | .keyword .select => select
  | _ => fail .statement

/-- One statement, its semicolon, and then the end of the input. -/
def line : Cursor Statement := do
  let parsed ← statement
  expect (.symbol .semicolon)
  if (← current).kind = .endOfInput then
    return parsed
  fail .endAfterSemicolon

/-- The statement that a list of tokens writes. -/
def ofTokens (tokens : List Token) : Option (Except SyntaxError Statement) :=
  ((line.run (Token.withEnd tokens)).run' 0).run

end Cursor

end ColumnStore
