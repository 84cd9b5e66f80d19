import ColumnStore.Token.Lexer

/-!
# Reading tokens by position

The tokens of a text once more, read from the whole input and a position in it. Every read of a
character names its position. There is no result for a read outside the input, and none for a scan
that stops moving before the end.
-/

namespace ColumnStore.Scanner

open Text Token

/-- The characters of a class from a position on, and the position behind them. -/
def run (input : List Char) (p : Char → Bool) (position : Nat) : Option (List Char × Nat) :=
  if _ : input.length ≤ position then some ([], position)
  else do
    let c ← input[position]?
    if p c then
      let (rest, stop) ← run input p (position + 1)
      return (c :: rest, stop)
    else return ([], position)
termination_by input.length - position

/-- The text of a string literal from behind its opening quote, and the position behind the
closing one. -/
def stringFrom (input : List Char) (start position : Nat) :
    Option (Except LexError (List Char × Nat)) :=
  if _ : input.length ≤ position then some (.error (.unterminatedString start))
  else do
    let c ← input[position]?
    if c = '\'' then
      if input[position + 1]? = some '\'' then
        let body ← stringFrom input start (position + 2)
        return body.map fun (text, stop) => ('\'' :: text, stop)
      else return .ok ([], position + 1)
    else
      let body ← stringFrom input start (position + 1)
      return body.map fun (text, stop) => (c :: text, stop)
termination_by input.length - position

/-- The token at a position, and the position behind it. -/
def next (input : List Char) (position : Nat) : Option (Except LexError (Token × Nat)) := do
  let c ← input[position]?
  match Symbol.ofChar? c with
  | some symbol => return .ok (⟨⟨.symbol symbol, String.ofList [c]⟩, position⟩, position + 1)
  | none =>
    if isAlphabetic c then
      let (letters, stop) ← run input isWordPart position
      let word := String.ofList letters
      return .ok (⟨⟨wordKind word, word⟩, position⟩, stop)
    else if c.isDigit then
      let (digits, stop) ← run input Char.isDigit position
      return .ok (⟨⟨.number, String.ofList digits⟩, position⟩, stop)
    else if c == '\'' then
      let body ← stringFrom input position (position + 1)
      return body.map fun (text, stop) => (⟨⟨.string, String.ofList text⟩, position⟩, stop)
    else return .error (.unexpectedCharacter c position)

/-- The tokens from a position on. A token that takes no character has no result, as it would be
read again without end. -/
def tokens (input : List Char) (start : Nat) : Option (Except LexError (List Token)) := do
  let (_, position) ← run input isBlank start
  if input.length ≤ position then return .ok [⟨⟨.endOfInput, ""⟩, input.length⟩]
  else
    match ← next input position with
    | .error e => return .error e
    | .ok (token, stop) =>
      if _ : input.length - stop < input.length - start then
        let later ← tokens input stop
        return later.map (token :: ·)
      else none
termination_by input.length - start

/-- The tokens of a statement text. -/
def ofText (text : String) : Option (Except LexError (List Token)) := tokens text.toList 0

end ColumnStore.Scanner
