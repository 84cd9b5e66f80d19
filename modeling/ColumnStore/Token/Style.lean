import Mathlib.Logic.Relation
import ColumnStore.Token.Layout

/-!
# The style of a text

White space between two tokens and the letter case of keywords are matters of style. A text is put
in another style by changing one of them at one place after the other. What a statement is made of
stays: the kinds of the tokens in order, and the texts of names, numbers and strings.
-/

namespace ColumnStore.Token

open Text

/-- Tokens of the same kind that also agree in their text, unless the kind alone tells it. -/
def Alike (t t' : Token) : Prop :=
  t.kind = t'.kind ∧
    (t.kind = .identifier ∨ t.kind = .number ∨ t.kind = .string → t.text = t'.text)

instance : DecidableRel Alike := fun _ _ => inferInstanceAs (Decidable (_ ∧ (_ → _)))

/-- The same word up to the case of the letters from A to Z. -/
def SameLetters (word word' : List Char) : Prop := word.map Char.toLower = word'.map Char.toLower

/-- One change of style to a text with these tokens: white space is put in at a place that is inside
no token, or a keyword is written with other letter case. -/
inductive Restyled (text : List Char) (tokens : List Token) : List Char → Prop
  | spaced (place : Nat) (space : List Char) (within : place ≤ text.length)
      (blank : ∀ c ∈ space, isBlank c = true)
      (between : ∀ t ∈ tokens, place ≤ t.position ∨ t.stop ≤ place) :
      Restyled text tokens (text.take place ++ (space ++ text.drop place))
  | recased (t : Token) (k : Keyword) (word : List Char) (member : t ∈ tokens)
      (keyword : t.kind = .keyword k) (same : SameLetters word t.text.toList) :
      Restyled text tokens (text.take t.position ++ (word ++ text.drop t.stop))

/-- One change of style to a text that has tokens. -/
def Restyles (text text' : String) : Prop :=
  ∃ tokens, ofText text = .ok tokens ∧ Restyled text.toList tokens text'.toList

/-- Any number of changes of style, one after the other. -/
abbrev SameStyle : String → String → Prop := Relation.ReflTransGen Restyles

end ColumnStore.Token
