import ColumnStore.Text.Spans

/-!
# White space

The characters with the White_Space property. They separate tokens, and a text of nothing else
is blank.
-/

namespace ColumnStore.Text

def blankSpans : Spans :=
  [(0x09, 0x0D), (0x20, 0x20), (0x85, 0x85), (0xA0, 0xA0), (0x1680, 0x1680), (0x2000, 0x200A),
   (0x2028, 0x2029), (0x202F, 0x202F), (0x205F, 0x205F), (0x3000, 0x3000)]

def isBlank (c : Char) : Bool := blankSpans.contains c.toNat

/-- Drops the white space at both ends. -/
def trim (s : List Char) : List Char :=
  ((s.dropWhile isBlank).reverse.dropWhile isBlank).reverse

def isBlankText (s : String) : Bool := s.toList.all isBlank

end ColumnStore.Text
