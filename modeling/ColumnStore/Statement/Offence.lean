import ColumnStore.Statement.Grammar
import ColumnStore.Statement.Parser

/-!
# Offending tokens

Tokens that are no statement have a first one that offends: what stands before it begins a
statement, and with it nothing does. The one exception is an insert with too many or too few values,
whose tokens are all in their place. It is refused when its second list is closed, and the error
tells where that list was opened.
-/

namespace ColumnStore

/-- Whether a syntax error complains about the count of values in an insert. -/
def SyntaxError.IsMiscount (e : SyntaxError) : Prop :=
  ∃ columns values, e.expected = .values columns ∧ e.found = .values values

namespace Statement

/-- The statements that can be written, when the count of values in an insert is left aside. -/
def Formed : Statement → Prop
  | insert _ columns values => columns ≠ [] ∧ values ≠ []
  | s => s.Grammatical

/-- Some statement and its semicolon begin with the tokens. -/
def Begins (front : List Token) : Prop :=
  ∃ (s : Statement) (later : List Token), s.Formed ∧
    List.Forall₂ Terminal.Matches (s.terminals ++ [.symbol .semicolon]) (front ++ later)

/-- An insert up to its values. -/
def insertHead (table : String) (columns : List String) : List Terminal :=
  [.keyword .insert, .keyword .into, .name table] ++ Terminal.ofNames columns ++ [.keyword .values]

/-- The tokens are those of an insert up to the parenthesis that closes its values, which are not as
many as the columns, and the error stands at the parenthesis that opens them. -/
def Miscounts (front : List Token) (e : SyntaxError) : Prop :=
  ∃ table columns values head opening inner, front = head ++ opening :: inner ∧
    columns ≠ [] ∧ values ≠ [] ∧ values.length ≠ columns.length ∧
    List.Forall₂ Terminal.Matches (insertHead table columns) head ∧
    List.Forall₂ Terminal.Matches (Terminal.ofLiterals values) (opening :: inner) ∧
    e = ⟨.values columns.length, .values values.length, opening.position⟩

/-- The error is about the token at the index. The tokens before it begin a statement, and with it
they do not. Every list that begins with it and the tokens before it is refused for it. -/
structure Offends (tokens : List Token) (e : SyntaxError) (index : Nat) : Prop where
  here : ∃ token, tokens[index]? = some token ∧ e.position = token.position ∧
    e.found = .ofToken token
  before : Begins (tokens.take index)
  stops : ¬ Begins (tokens.take (index + 1))
  after : ∀ other, tokens.take (index + 1) <+: other → ofTokens other = .error e

end Statement

end ColumnStore
