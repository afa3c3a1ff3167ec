import Showcase.Screen.Box
import Showcase.Screen.Wrap

/-!
# Paragraphs

A paragraph is a list of lines in a rectangle, with or without a box around them.  Its lines are
cut or broken to the width of the rectangle; then the first rows are skipped as far as the
paragraph is scrolled, and as many are drawn as there is room for.

Rows are counted in 16 bits, the skipped ones included: a paragraph that is scrolled so far that
the count would not fit shows nothing.
-/

namespace Showcase.Screen

/-- What becomes of a line that is too long. -/
inductive Overflow where
  /-- It is cut. -/
  | cut
  /-- It is broken. -/
  | wrap (trim : Bool)
  deriving DecidableEq, Repr

/-- Lines in a rectangle. -/
structure Paragraph where
  /-- The lines. -/
  lines : List Line
  /-- The box around them. -/
  box : Option Box := none
  /-- How they look. -/
  style : Style := {}
  /-- The side of lines that have none of their own. -/
  align : Align := .left
  /-- What becomes of a line that is too long. -/
  overflow : Overflow := .cut
  /-- The number of rows that are skipped. -/
  scroll : Nat := 0

namespace Paragraph

/-- The lines of a plain text; the empty text is one empty line. -/
def linesOf (s : String) : List Line :=
  if s.isEmpty then [⟨[], none⟩] else (Text.lineChars s.toList).map fun cs => ⟨[⟨cs, {}⟩], none⟩

/-- The rows of a line. -/
def rowsOf (p : Paragraph) (columns : Nat) (l : Line) : List (Align × List Glyph) :=
  let align := l.align.getD p.align
  match p.overflow with
  | .cut => [(align, cutLine columns l.glyphs)]
  | .wrap trim => (wrapLine columns trim l.glyphs).map fun row => (align, row)

/-- The rows that a rectangle of a size shows. -/
def rows (p : Paragraph) (columns height : Nat) : List (Align × List Glyph) :=
  if 65535 < p.scroll + height then []
  else
    match p.overflow with
    | .cut => ((p.lines.drop p.scroll).take height).flatMap (p.rowsOf columns)
    | .wrap _ => ((p.lines.flatMap (p.rowsOf columns)).drop p.scroll).take height

/-- How far a row is moved to its side. -/
def offset (columns : Nat) (align : Align) (row : List Glyph) : Nat :=
  match align with
  | .left => 0
  | .center => columns / 2 - glyphsWidth row / 2
  | .right => columns - glyphsWidth row

/-- Draws the glyphs of a row from column `x` on.  A glyph without a width is left out, and the
cells behind a wide glyph are left alone. -/
def drawRow (f : Frame) (y x : Nat) : List Glyph → Frame
  | [] => f
  | g :: gs =>
    if g.width = 0 then drawRow f y x gs
    else
      drawRow (f.change x y fun c => (c.withSymbol g.symbol).withStyle g.style) y (x + g.width) gs

/-- Draws rows one below the other from row `y` on. -/
def drawRows (f : Frame) (left columns y : Nat) : List (Align × List Glyph) → Frame
  | [] => f
  | (align, row) :: rows =>
    drawRows (drawRow f y (left + offset columns align row) row) left columns (y + 1) rows

/-- Where the rows are drawn. -/
def inside (p : Paragraph) (r : Rect) : Rect :=
  match p.box with
  | some _ => r.inner
  | none => r

/-- Draws a paragraph. -/
def draw (p : Paragraph) (f : Frame) (r : Rect) : Frame :=
  let f := f.restyle r p.style
  let f := match p.box with
    | some b => b.draw f r
    | none => f
  let inner := p.inside r
  if inner.isEmpty then f
  else
    drawRows (f.restyle inner p.style) inner.x inner.width inner.y
      (p.rows inner.width inner.height)

end Paragraph

end Showcase.Screen
