import Showcase.Text.Ranges

/-!
# Blank characters and blank text

A character is *blank* when it only makes room: the spaces of all widths, the tabs, the line and
paragraph separators.  A text of blank characters counts as empty wherever a name or a search is
asked for.
-/

namespace Showcase.Text

/-- The blank code points. -/
def blankRanges : Ranges := [
    (0x9, 0xD), (0x20, 0x20), (0x85, 0x85), (0xA0, 0xA0), (0x1680, 0x1680), (0x2000, 0x200A),
    (0x2028, 0x2029), (0x202F, 0x202F), (0x205F, 0x205F), (0x3000, 0x3000)]

/-- Whether a character only makes room. -/
def isBlank (c : Char) : Bool := blankRanges.has c.toNat

/-- Whether a text has no character that is not blank. -/
def isBlankText (s : String) : Bool := s.toList.all isBlank

/-- Characters without the blanks at both ends. -/
def trim (cs : List Char) : List Char :=
  ((cs.dropWhile isBlank).reverse.dropWhile isBlank).reverse

end Showcase.Text
