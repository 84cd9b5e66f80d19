import ColumnStore.Statement.Grammar

/-!
# Writing statements

The text of a statement: keywords in upper case, names as they are, numbers in decimal, strings
between quotes, one space between two tokens and a semicolon at the end. Every statement has a
text, but stored defaults inside definitions are not written, and only statements whose names are
words and whose numbers are not negative are read back.
-/

namespace ColumnStore

open Token (Lexeme)
open Token.Lexeme

def Literal.lexeme : Literal → Lexeme
  | number n => ⟨.number, Decimal.render n⟩
  | string s => ⟨.string, s⟩
  | null => ofKeyword .null
  | default => ofKeyword .default

/-- The token that writes a terminal. -/
def Terminal.lexeme : Terminal → Lexeme
  | keyword word => ofKeyword word
  | symbol s => ofSymbol s
  | name text => ⟨.identifier, text⟩
  | length limit => ⟨.number, String.ofList (Decimal.digits limit.toNat)⟩
  | literal l => l.lexeme

namespace Statement

def lexemes (s : Statement) : List Lexeme :=
  (s.terminals ++ [Terminal.symbol .semicolon]).map Terminal.lexeme

def toText (s : Statement) : String :=
  String.ofList ([' '].intercalate (s.lexemes.map (·.spelling)))

end Statement

end ColumnStore
