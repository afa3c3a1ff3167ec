import Showcase.Format.Hex

/-!
# Colours and styles

A style says how a cell looks, as far as it says anything: a colour that a style does not give
stays what it was.  Bold and italic are only ever added.
-/

namespace Showcase.Screen

/-- A colour by its shares of red, green and blue. -/
structure Colour where
  /-- The share of red. -/
  red : UInt8
  /-- The share of green. -/
  green : UInt8
  /-- The share of blue. -/
  blue : UInt8
  deriving DecidableEq, Repr

/-- A colour in hexadecimal digits, after a hash sign. -/
def Colour.hex (c : Colour) : String :=
  String.ofList ('#' :: Hex.byte c.red.toNat ++ Hex.byte c.green.toNat ++ Hex.byte c.blue.toNat)

/-- What a style gives. -/
structure Style where
  /-- The colour of the symbol. -/
  fg : Option Colour := none
  /-- The colour behind the symbol. -/
  bg : Option Colour := none
  /-- Whether the symbol becomes bold. -/
  bold : Bool := false
  /-- Whether the symbol becomes italic. -/
  italic : Bool := false
  deriving DecidableEq, Repr

namespace Style

/-- Only a colour for the symbol. -/
def ink (c : Colour) : Style := { fg := some c }

/-- Only a colour behind the symbol. -/
def ground (c : Colour) : Style := { bg := some c }

/-- The same, and bold. -/
def strong (s : Style) : Style := { s with bold := true }

/-- The same, and italic. -/
def slanted (s : Style) : Style := { s with italic := true }

end Style

/-! ## The colours of the program -/

namespace Palette

/-- Behind everything. -/
def ground : Colour := ⟨30, 30, 46⟩

/-- Behind the row of the cursor and the status line. -/
def cursorRow : Colour := ⟨69, 71, 90⟩

/-- Plain text. -/
def plain : Colour := ⟨205, 214, 244⟩

/-- Text that stands back. -/
def faint : Colour := ⟨127, 132, 156⟩

/-- Sky blue. -/
def cyan : Colour := ⟨137, 220, 235⟩

/-- Green. -/
def green : Colour := ⟨166, 227, 161⟩

/-- Orange. -/
def orange : Colour := ⟨250, 179, 135⟩

/-- Purple. -/
def purple : Colour := ⟨203, 166, 247⟩

/-- Red. -/
def red : Colour := ⟨243, 139, 168⟩

/-- Yellow. -/
def yellow : Colour := ⟨249, 226, 175⟩

/-- A panel. -/
def panel : Style := { bg := some ground, fg := some plain }

/-- The border of a panel; the panel that has the keyboard stands out. -/
def border (focused : Bool) : Style := .ink (if focused then purple else faint)

/-- The row of the cursor. -/
def highlight : Style := { bg := some cursorRow, fg := some plain, bold := true }

/-- A category to choose from; the chosen one stands out. -/
def chip (chosen : Bool) : Style :=
  if chosen then { bg := some purple, fg := some ground, bold := true } else .ink faint

/-- The category of an entry. -/
def category : Style := .ink orange

/-- The description of an entry, and hints. -/
def description : Style := (Style.ink faint).slanted

/-- The numbers of lines, and keys of entries. -/
def lineNumber : Style := .ink faint

end Palette

end Showcase.Screen
