import ColumnStore.Text.GraphemeExtend
import ColumnStore.Text.Printable

/-!
# Quoted texts in messages

A character or a name inside a message stands between quotes. A backslash escapes the quote in
use, the backslash itself and the four control characters that have a letter; a grapheme
extender and a character that is not printable appear as their code point in lower case
hexadecimal. The other kind of quote needs no escape.
-/

namespace ColumnStore.Text

/-- A code point between the marks of a Unicode escape. -/
def codePointEscape (c : Char) : List Char :=
  ['\\', 'u', '\x7b'] ++ Nat.toDigits 16 c.toNat ++ ['\x7d']

def escaped (quote c : Char) : List Char :=
  if c == '\x00' then ['\\', '0']
  else if c == '\t' then ['\\', 't']
  else if c == '\n' then ['\\', 'n']
  else if c == '\r' then ['\\', 'r']
  else if c == '\\' || c == quote then ['\\', c]
  else if isGraphemeExtender c || !isPrintable c then codePointEscape c
  else [c]

def quoted (quote : Char) (cs : List Char) : String :=
  String.ofList (quote :: cs.flatMap (escaped quote) ++ [quote])

def quotedChar (c : Char) : String := quoted '\'' [c]

def quotedName (s : String) : String := quoted '"' s.toList

/-- The names between brackets, a comma and a space apart. -/
def quotedNames (names : List String) : String :=
  "[" ++ ", ".intercalate (names.map quotedName) ++ "]"

end ColumnStore.Text
