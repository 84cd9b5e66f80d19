import ColumnStore.Text.Blank
import ColumnStore.Text.Case
import ColumnStore.Text.Numeric
import ColumnStore.Text.Quoted
import ColumnStore.Token

/-!
# Reading tokens

A word, a number and a string each take the longest run of characters they can, white space
between tokens is dropped, and the list ends with one end-of-input token at the length of the
text. A word is a keyword when its upper case is one, whatever its own case. Reading fails at the
first character that begins no token, or at the opening quote of a string that is never closed.
-/

namespace ColumnStore

open Text

inductive LexError
  | unexpectedCharacter (character : Char) (position : Nat)
  | unterminatedString (position : Nat)
  deriving DecidableEq, Repr

def LexError.message : LexError → String
  | unexpectedCharacter character position =>
    "character " ++ quotedChar character ++ " at position " ++ toString position ++
      " is not supported"
  | unterminatedString position =>
    "string literal starting at position " ++ toString position ++ " is never closed"

namespace Token

def isWordPart (c : Char) : Bool := isAlphanumeric c || c == '_'

def wordKind (word : String) : Kind :=
  match Keyword.ofSpelling? (upperCase word) with
  | some keyword => .keyword keyword
  | none => .identifier

/-- The text of a string literal after its opening quote, and what follows the closing one. -/
def stringBody : List Char → Option (List Char × List Char)
  | [] => none
  | '\'' :: '\'' :: cs => (stringBody cs).map fun (text, rest) => ('\'' :: text, rest)
  | '\'' :: cs => some ([], cs)
  | c :: cs => (stringBody cs).map fun (text, rest) => (c :: text, rest)

/-- The token that begins with `c`, and the characters after it. -/
def next (position : Nat) (c : Char) (cs : List Char) : Except LexError (Token × List Char) :=
  match Symbol.ofChar? c with
  | some symbol => .ok (⟨⟨.symbol symbol, String.ofList [c]⟩, position⟩, cs)
  | none =>
    if isAlphabetic c then
      let word := String.ofList (c :: cs.takeWhile isWordPart)
      .ok (⟨⟨wordKind word, word⟩, position⟩, cs.dropWhile isWordPart)
    else if c.isDigit then
      let number := String.ofList (c :: cs.takeWhile Char.isDigit)
      .ok (⟨⟨.number, number⟩, position⟩, cs.dropWhile Char.isDigit)
    else if c == '\'' then
      match stringBody cs with
      | some (text, rest) => .ok (⟨⟨.string, String.ofList text⟩, position⟩, rest)
      | none => .error (.unterminatedString position)
    else .error (.unexpectedCharacter c position)

theorem length_stringBody {cs text rest : List Char} (h : stringBody cs = some (text, rest)) :
    rest.length < cs.length := by
  fun_induction stringBody cs generalizing text rest with
  | case1 => simp at h
  | case2 cs ih =>
    obtain ⟨⟨inner, after⟩, body, pair⟩ := Option.map_eq_some_iff.mp h
    have := ih body
    simp_all only [Prod.mk.injEq, List.length_cons]
    omega
  | case3 cs _ => simp_all
  | case4 c cs _ _ ih =>
    obtain ⟨⟨inner, after⟩, body, pair⟩ := Option.map_eq_some_iff.mp h
    have := ih body
    simp_all only [Prod.mk.injEq, List.length_cons]
    omega

theorem length_dropWhile_le (p : Char → Bool) (cs : List Char) :
    (cs.dropWhile p).length ≤ cs.length :=
  (List.dropWhile_suffix p).length_le

theorem length_next {position : Nat} {c : Char} {cs rest : List Char} {token : Token}
    (h : next position c cs = .ok (token, rest)) : rest.length ≤ cs.length := by
  rw [next] at h
  split at h
  · simp_all
  · split at h
    · simp only [Except.ok.injEq, Prod.mk.injEq] at h
      exact h.2 ▸ length_dropWhile_le isWordPart cs
    · split at h
      · simp only [Except.ok.injEq, Prod.mk.injEq] at h
        exact h.2 ▸ length_dropWhile_le Char.isDigit cs
      · split at h
        · split at h
          · next body =>
            simp only [Except.ok.injEq, Prod.mk.injEq] at h
            exact Nat.le_of_lt (h.2 ▸ length_stringBody body)
          · simp at h
        · simp at h

/-- Reads the characters from `position` on. -/
def scan (position : Nat) : List Char → Except LexError (List Token)
  | [] => .ok [⟨⟨.endOfInput, ""⟩, position⟩]
  | c :: cs =>
    if isBlank c then scan (position + 1) cs
    else
      match h : next position c cs with
      | .error error => .error error
      | .ok (token, rest) =>
        have : rest.length ≤ cs.length := length_next h
        (scan (position + token.spelling.length) rest).map (token :: ·)
termination_by cs => cs.length

/-- The tokens of a statement text. -/
def ofText (text : String) : Except LexError (List Token) := scan 0 text.toList

end Token

end ColumnStore
