/-
This file holds the characters with the Unicode property White_Space. A line of a query
file that holds nothing else is blank and is skipped.
-/

import ContentQuery.Text.Ranges

namespace ContentQuery.Text

/-- The white space code points. -/
def whiteSpaceRanges : RangeTable 0 where
  ranges :=
    [(0x9, 0xd), (0x20, 0x20), (0x85, 0x85), (0xa0, 0xa0), (0x1680, 0x1680), (0x2000, 0x200a),
     (0x2028, 0x2029), (0x202f, 0x202f), (0x205f, 0x205f), (0x3000, 0x3000)]

/-- Whether a character is white space. -/
def isWhiteSpace (character : Char) : Bool :=
  whiteSpaceRanges.has character.toNat

/-- Whether a text holds nothing but white space. -/
def isBlank (text : List Char) : Bool :=
  text.all isWhiteSpace

end ContentQuery.Text
