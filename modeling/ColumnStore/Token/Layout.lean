import ColumnStore.Text.Decimal
import ColumnStore.Token.Lexer

/-!
# How tokens lie in a text

What a list of tokens has to do with a text, said without reading the text from left to right.
Every token has a spelling and so a span of positions. The spans lie in order and none overlaps
another, each holds the spelling of its token, and all that lies outside them is white space. A
token is as long as it can be: the character behind it is none that it would have taken.
-/

namespace ColumnStore.Token

open Text

/-- A letter, and then letters, numbers and underscores. -/
def IsWord : List Char → Prop
  | [] => False
  | first :: rest => isAlphabetic first = true ∧ ∀ c ∈ rest, isWordPart c = true

-- The characters of the list are tried, not all characters there are.
instance : DecidablePred IsWord
  | [] => .isFalse id
  | _ :: rest => @instDecidableAnd _ _ inferInstance (List.decidableBAll _ rest)

/-- A word that is no keyword. -/
def IsName (name : String) : Prop :=
  IsWord name.toList ∧ Keyword.ofSpelling? (upperCase name) = none

instance : DecidablePred IsName := fun _ => inferInstanceAs (Decidable (_ ∧ _))

namespace Lexeme

/-- The text is one of the kind. No lexeme of a text is an end of the input. -/
def IsProper (l : Lexeme) : Prop :=
  match l.kind with
  | .symbol s => l.text = String.ofList [s.char]
  | .keyword word =>
    IsWord l.text.toList ∧ Keyword.ofSpelling? (upperCase l.text) = some word
  | .identifier => IsName l.text
  | .number => Decimal.isDigits l.text.toList = true
  | .string => True
  | .endOfInput => False

/-- Whether a lexeme goes on with a character that follows it. -/
def Takes (l : Lexeme) (c : Char) : Prop :=
  match l.kind with
  | .keyword _ | .identifier => isWordPart c = true
  | .number => c.isDigit = true
  | .string => c = '\''
  | .symbol _ | .endOfInput => False

end Lexeme

/-- The position behind the last character of the span. -/
def stop (t : Token) : Nat := t.position + t.spelling.length

/-- The end of a text of that length. -/
def ending (length : Nat) : Token := ⟨⟨.endOfInput, ""⟩, length⟩

/-- A text that is read as one identifier and nothing else. -/
def IsIdentifier (name : String) : Prop :=
  ofText name = .ok [⟨⟨.identifier, name⟩, 0⟩, ending name.length]

/-- A text that is read as one number and nothing else. -/
def IsNumber (text : String) : Prop :=
  ofText text = .ok [⟨⟨.number, text⟩, 0⟩, ending text.length]

/-- The spans of the tokens make up the text from `start` on. -/
structure Cover (text : List Char) (start : Nat) (tokens : List Token) : Prop where
  proper : ∀ t ∈ tokens, t.IsProper
  inside : ∀ t ∈ tokens, start ≤ t.position
  ordered : tokens.Pairwise fun t later => t.stop ≤ later.position
  spelled : ∀ t ∈ tokens, (text.drop t.position).take t.spelling.length = t.spelling
  maximal : ∀ t ∈ tokens, ∀ c, text[t.stop]? = some c → ¬ t.Takes c
  blank : ∀ i c, start ≤ i → text[i]? = some c →
    (∀ t ∈ tokens, ¬ (t.position ≤ i ∧ i < t.stop)) → isBlank c = true

end ColumnStore.Token
