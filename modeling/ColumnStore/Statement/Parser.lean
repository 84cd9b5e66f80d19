import ColumnStore.Statement
import ColumnStore.Token

/-!
# Parsing statements

A parser takes tokens from the front of a list and answers a value with the tokens that are left,
which are always the end of the list it began with. The grammar needs one token of lookahead:
`accept` decides on the next token alone, and takes it or fails at it, so an error always points
at the first token that no statement can have there. The one check that looks back is that an
INSERT has as many values as columns.
-/

namespace ColumnStore

/-- What a parser wanted at a token. -/
inductive SyntaxError.Expected
  | statement
  | endAfterSemicolon
  | kind (kind : Token.Kind)
  | nextItem
  | varcharLength
  | columnType
  | integer
  | storedLiteral
  | insertedLiteral
  | values (count : Nat)
  | createObject
  | dropObject
  | showObject
  | alterObject
  deriving DecidableEq, Repr

/-- What the parser met instead. -/
inductive SyntaxError.Found
  | endOfInput
  | string (text : String)
  | token (text : String)
  | values (count : Nat)
  deriving DecidableEq, Repr

structure SyntaxError where
  expected : SyntaxError.Expected
  found : SyntaxError.Found
  position : Nat
  deriving DecidableEq, Repr

namespace SyntaxError

def Expected.label : Expected → String
  | statement => "a statement"
  | endAfterSemicolon => "end of input after ';'"
  | kind k => k.label
  | nextItem => "',' or ')'"
  | varcharLength => "VARCHAR length between 1 and 255"
  | columnType => "column type INT or VARCHAR(n)"
  | integer => "integer within the 64-bit range"
  | storedLiteral => "number, string or NULL"
  | insertedLiteral => "number, string, NULL or DEFAULT"
  | values count => toString count ++ " values"
  | createObject => "DATABASE or TABLE"
  | dropObject => "DATABASE, TABLE or DEFAULT"
  | showObject => "DATABASES, TABLES or CURRENT DATABASE"
  | alterObject => "TABLE or DATABASE"

def Found.label : Found → String
  | endOfInput => "end of input"
  | string text => "string '" ++ text ++ "'"
  | token text => "'" ++ text ++ "'"
  | values count => toString count ++ " values"

def message (e : SyntaxError) : String :=
  "expected " ++ e.expected.label ++ ", found " ++ e.found.label ++ " at position " ++
    toString e.position

def Found.ofToken (token : Token) : Found :=
  match token.kind with
  | .endOfInput => .endOfInput
  | .string => .string token.text
  | _ => .token token.text

/-- The error of wanting something else than this token. -/
def atToken (expected : Expected) (token : Token) : SyntaxError :=
  ⟨expected, .ofToken token, token.position⟩

end SyntaxError

structure Parser (α : Type) where
  run : List Token → Except SyntaxError (α × List Token)
  suffix : ∀ {tokens a rest}, run tokens = .ok (a, rest) → rest <:+ tokens

namespace Parser

open SyntaxError (Expected)

instance : Monad Parser where
  pure a := ⟨fun tokens => .ok (a, tokens), by simp⟩
  bind p f :=
    ⟨fun tokens =>
      match p.run tokens with
      | .error e => .error e
      | .ok (a, rest) => (f a).run rest,
     by
      intro tokens b rest h
      split at h
      · simp at h
      · next first => exact ((f _).suffix h).trans (p.suffix first)⟩

theorem run_pure {α : Type} (a : α) (tokens : List Token) :
    (pure a : Parser α).run tokens = .ok (a, tokens) :=
  rfl

theorem run_bind {α β : Type} (p : Parser α) (f : α → Parser β) (tokens : List Token) :
    (p >>= f).run tokens =
      match p.run tokens with
      | .error e => .error e
      | .ok (a, rest) => (f a).run rest :=
  rfl

/-- The next token. A list without tokens counts as the end of the input. -/
def current : List Token → Token
  | [] => ⟨⟨.endOfInput, ""⟩, 0⟩
  | token :: _ => token

/-- The kind of the next token, which stays where it is. -/
def peek : Parser Token.Kind := ⟨fun tokens => .ok ((current tokens).kind, tokens), by simp⟩

def position : Parser Nat := ⟨fun tokens => .ok ((current tokens).position, tokens), by simp⟩

def fail {α : Type} (expected : Expected) : Parser α :=
  ⟨fun tokens => .error (.atToken expected (current tokens)), by simp⟩

def failWith {α : Type} (e : SyntaxError) : Parser α := ⟨fun _ => .error e, by simp⟩

/-- Takes the next token if `choose` has a value for it, and otherwise fails at it. -/
def accept {α : Type} (choose : Token → Except Expected α) : Parser α where
  run tokens :=
    match choose (current tokens) with
    | .error expected => .error (.atToken expected (current tokens))
    | .ok a => .ok (a, tokens.tail)
  suffix {tokens a rest} h := by
    split at h
    · simp at h
    · simp only [Except.ok.injEq, Prod.mk.injEq] at h
      exact h.2 ▸ tokens.tail_suffix

/-- Goes on with the parser that `choose` has for the next token. -/
def branch {α : Type} (choose : Token.Kind → Except Expected (Parser α)) : Parser α := do
  let next ← accept fun token => choose token.kind
  next

def expect (kind : Token.Kind) : Parser Unit :=
  accept fun token => if token.kind = kind then .ok () else .error (.kind kind)

def keyword (word : Keyword) : Parser Unit := expect (.keyword word)

def identifier : Parser String :=
  accept fun token =>
    if token.kind = .identifier then .ok token.text else .error (.kind .identifier)

/-- After an item of a list: a comma goes on, a closing parenthesis ends. -/
def separatorOf (token : Token) : Except Expected Bool :=
  match token.kind with
  | .symbol .comma => .ok true
  | .symbol .rightParen => .ok false
  | _ => .error .nextItem

def continues : Parser Bool := accept separatorOf

theorem continues_length {tokens rest : List Token}
    (h : continues.run tokens = .ok (true, rest)) : rest.length < tokens.length := by
  cases tokens with
  | nil => simp [continues, accept, separatorOf, current] at h
  | cons token tokens =>
    simp only [continues, accept] at h
    split at h
    · simp at h
    · simp only [Except.ok.injEq, Prod.mk.injEq, List.tail_cons] at h
      simp [← h.2]

/-- The items of a list after its opening parenthesis. -/
def items {α : Type} (item : Parser α) (tokens : List Token) :
    Except SyntaxError (List α × List Token) :=
  match taken : item.run tokens with
  | .error e => .error e
  | .ok (a, rest) =>
    match more : continues.run rest with
    | .error e => .error e
    | .ok (false, rest) => .ok ([a], rest)
    | .ok (true, rest) =>
      have : rest.length < tokens.length :=
        Nat.lt_of_lt_of_le (continues_length more) (item.suffix taken).length_le
      match items item rest with
      | .error e => .error e
      | .ok (as, rest) => .ok (a :: as, rest)
termination_by tokens.length

theorem items_suffix {α : Type} (item : Parser α) {tokens rest : List Token} {as : List α}
    (h : items item tokens = .ok (as, rest)) : rest <:+ tokens := by
  fun_induction items item tokens generalizing as rest with
  | case1 => simp at h
  | case2 => simp at h
  | case3 tokens a left taken right more =>
    simp only [Except.ok.injEq, Prod.mk.injEq] at h
    exact h.2 ▸ (continues.suffix more).trans (item.suffix taken)
  | case4 => simp at h
  | case5 tokens a left taken right more _ as' last rec ih =>
    simp only [Except.ok.injEq, Prod.mk.injEq] at h
    exact h.2 ▸ (ih rec).trans ((continues.suffix more).trans (item.suffix taken))

/-- One or more items between parentheses, a comma between two. -/
def list {α : Type} (item : Parser α) : Parser (List α) := do
  expect (.symbol .leftParen)
  ⟨items item, items_suffix item⟩

theorem identifier_length {tokens rest : List Token} {name : String}
    (h : identifier.run tokens = .ok (name, rest)) : rest.length < tokens.length := by
  cases tokens with
  | nil => simp [identifier, accept, current] at h
  | cons token tokens =>
    simp only [identifier, accept] at h
    split at h
    · simp at h
    · simp only [Except.ok.injEq, Prod.mk.injEq, List.tail_cons] at h
      simp [← h.2]

/-- The further names of a list without parentheses, each after a comma. -/
def namesAfter (tokens : List Token) : Except SyntaxError (List String × List Token) :=
  if (current tokens).kind = .symbol .comma then
    match taken : identifier.run tokens.tail with
    | .error e => .error e
    | .ok (name, rest) =>
      have : rest.length < tokens.length :=
        Nat.lt_of_lt_of_le (identifier_length taken) tokens.tail_suffix.length_le
      match namesAfter rest with
      | .error e => .error e
      | .ok (names, rest) => .ok (name :: names, rest)
  else .ok ([], tokens)
termination_by tokens.length

theorem namesAfter_suffix {tokens rest : List Token} {names : List String}
    (h : namesAfter tokens = .ok (names, rest)) : rest <:+ tokens := by
  fun_induction namesAfter tokens generalizing names rest with
  | case1 => simp at h
  | case2 => simp at h
  | case3 tokens _ name left taken _ names' last rec ih =>
    simp only [Except.ok.injEq, Prod.mk.injEq] at h
    exact h.2 ▸ (ih rec).trans ((identifier.suffix taken).trans tokens.tail_suffix)
  | case4 tokens _ =>
    simp only [Except.ok.injEq, Prod.mk.injEq] at h
    simp [← h.2]

/-- A number is read only when it can be a declared length, and is an error otherwise. -/
def lengthOf (token : Token) : Except Expected UInt32 :=
  match token.kind with
  | .number =>
    match Decimal.readUInt32? token.text with
    | some length =>
      if ColumnType.isValidLength length then .ok length else .error .varcharLength
    | none => .error .varcharLength
  | _ => .error .varcharLength

def varcharLength : Parser UInt32 := accept lengthOf

def columnType : Parser ColumnType :=
  branch fun
    | .keyword .int => .ok (pure .integer)
    | .keyword .varchar => .ok do
      expect (.symbol .leftParen)
      let length ← varcharLength
      expect (.symbol .rightParen)
      return .varchar length
    | _ => .error .columnType

def columnDefinition : Parser Column.Definition := do
  let name ← identifier
  let type ← columnType
  return ⟨name, type, none⟩

/-- The literal a token stands for where `expected` says what is allowed. -/
def literalOf (expected : Expected) (token : Token) : Except Expected Literal :=
  match token.kind with
  | .number =>
    match Decimal.readInt64? token.text with
    | some n => .ok (.number n)
    | none => .error .integer
  | .string => .ok (.string token.text)
  | .keyword .null => .ok .null
  | _ => .error expected

def storedLiteral : Parser Literal := accept (literalOf .storedLiteral)

/-- Among the values of an INSERT a literal may also be the default. -/
def insertedLiteralOf (token : Token) : Except Expected Literal :=
  if token.kind = .keyword .default then .ok .default else literalOf .insertedLiteral token

def insertedLiteral : Parser Literal := accept insertedLiteralOf

def inTable : Parser String := do
  keyword .«in»
  keyword .table
  identifier

def create : Parser Statement :=
  branch fun
    | .keyword .database => .ok do
      return .createDatabase (← identifier)
    | .keyword .table => .ok do
      let name ← identifier
      let columns ← list columnDefinition
      return .createTable name columns
    | _ => .error .createObject

def drop : Parser Statement :=
  branch fun
    | .keyword .database => .ok do
      return .dropDatabase (← identifier)
    | .keyword .table => .ok do
      return .dropTable (← identifier)
    | .keyword .default => .ok do
      keyword .«for»
      keyword .column
      let column ← identifier
      let table ← inTable
      return .dropDefault table column
    | _ => .error .dropObject

def use : Parser Statement :=
  accept fun token =>
    match token.kind with
    | .keyword .none => .ok .leaveDatabase
    | .identifier => .ok (.useDatabase token.text)
    | _ => .error (.kind .identifier)

def «show» : Parser Statement :=
  branch fun
    | .keyword .databases => .ok (pure .showDatabases)
    | .keyword .tables => .ok (pure .showTables)
    | .keyword .current => .ok do
      keyword .database
      return .showCurrentDatabase
    | _ => .error .showObject

def insert : Parser Statement := do
  keyword .into
  let table ← identifier
  let columns ← list identifier
  keyword .values
  let start ← position
  let values ← list insertedLiteral
  if values.length = columns.length then
    return .insert table columns values
  failWith ⟨.values columns.length, .values values.length, start⟩

/-- The statement that an ALTER makes of the old name and the new one. -/
def renamingOf (token : Token) : Except Expected (String → String → Statement) :=
  match token.kind with
  | .keyword .table => .ok .renameTable
  | .keyword .database => .ok .renameDatabase
  | _ => .error .alterObject

def alter : Parser Statement := do
  let renamed ← accept renamingOf
  let old ← identifier
  keyword .rename
  let new ← identifier
  return renamed old new

/-- The optional list of defaults at the end of an ADD COLUMN statement. -/
def defaults : Parser (Option (List Literal)) := do
  if (← peek) = .keyword .default then
    keyword .default
    return some (← list storedLiteral)
  return none

def add : Parser Statement := do
  keyword .column
  let columns ← list columnDefinition
  keyword .«to»
  keyword .table
  let table ← identifier
  let defaults ← defaults
  return .addColumns table columns defaults

def remove : Parser Statement := do
  keyword .«from»
  keyword .table
  let table ← identifier
  let columns ← list identifier
  return .removeColumns table columns

def rename : Parser Statement := do
  keyword .column
  let old ← identifier
  keyword .«to»
  let new ← identifier
  let table ← inTable
  return .renameColumn table old new

def modify : Parser Statement := do
  keyword .column
  let columns ← list columnDefinition
  let table ← inTable
  return .modifyColumns table columns

def truncate : Parser Statement := do
  keyword .table
  return .truncateTable (← identifier)

def set : Parser Statement := do
  keyword .column
  let column ← identifier
  let table ← inTable
  keyword .default
  let value ← storedLiteral
  return .setDefault table column value

/-- The star has no name, and else the first column has one. -/
def firstColumnOf (token : Token) : Except Expected (Option String) :=
  match token.kind with
  | .symbol .star => .ok none
  | .identifier => .ok (some token.text)
  | _ => .error (.kind .identifier)

def projection : Parser Projection := do
  let first ← accept firstColumnOf
  match first with
  | none => return .all
  | some name =>
    let names ← ⟨namesAfter, namesAfter_suffix⟩
    return .columns (name :: names)

def select : Parser Statement := do
  let projection ← projection
  keyword .«from»
  let table ← identifier
  return .select table projection

/-- A statement without its semicolon. -/
def statement : Parser Statement :=
  branch fun
    | .keyword .create => .ok create
    | .keyword .drop => .ok drop
    | .keyword .use => .ok use
    | .keyword .«show» => .ok «show»
    | .keyword .insert => .ok insert
    | .keyword .alter => .ok alter
    | .keyword .add => .ok add
    | .keyword .remove => .ok remove
    | .keyword .rename => .ok rename
    | .keyword .modify => .ok modify
    | .keyword .truncate => .ok truncate
    | .keyword .set => .ok set
    | .keyword .select => .ok select
    | _ => .error .statement

/-- One statement, its semicolon, and then the end of the input. -/
def line : Parser Statement := do
  let parsed ← statement
  expect (.symbol .semicolon)
  if (← peek) = .endOfInput then
    return parsed
  fail .endAfterSemicolon

end Parser

/-- The position after a token, counted by its text. Positions are 64-bit words. -/
def Token.following (token : Token) : Nat := (token.position + token.text.length) % UInt64.size

/-- The list with a final end-of-input token, which is added after the last token if missing. -/
def Token.withEnd (tokens : List Token) : List Token :=
  match tokens.getLast? with
  | none => [⟨⟨.endOfInput, ""⟩, 0⟩]
  | some last =>
    if last.kind = .endOfInput then tokens else tokens ++ [⟨⟨.endOfInput, ""⟩, last.following⟩]

/-- The statement that a list of tokens writes. -/
def Statement.ofTokens (tokens : List Token) : Except SyntaxError Statement :=
  match Parser.line.run (Token.withEnd tokens) with
  | .error e => .error e
  | .ok (parsed, _) => .ok parsed

end ColumnStore
