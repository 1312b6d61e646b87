/-!
# Text, and the characters that separate words

A text is a list of characters, so that every reader below is a recursion on
it and every offset is a count of characters.

A class of characters is a table of closed ranges of code points.  The class
of this file is `isBlank`: the blanks that separate the words of a filter.
-/

namespace TagFilter

/-- A text, character by character. -/
abbrev Text := List Char

instance : LawfulBEq Text := inferInstance

/-- A class of characters: closed ranges of code points, ascending. -/
abbrev CodeRanges := List (Nat × Nat)

/-- Whether some range of the table holds the character. -/
def CodeRanges.has (ranges : CodeRanges) (c : Char) : Bool :=
  ranges.any fun range => range.1 ≤ c.toNat && c.toNat ≤ range.2

/-- The white space of Unicode: the ASCII controls from tab to carriage return,
the space, and the spaces and line separators beyond ASCII. -/
def blankRanges : CodeRanges :=
  [(0x9, 0xD), (0x20, 0x20), (0x85, 0x85), (0xA0, 0xA0), (0x1680, 0x1680), (0x2000, 0x200A),
    (0x2028, 0x2029), (0x202F, 0x202F), (0x205F, 0x205F), (0x3000, 0x3000)]

/-- Whether the character separates words. -/
def isBlank (c : Char) : Bool := blankRanges.has c

end TagFilter
