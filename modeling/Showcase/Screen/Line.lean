import Showcase.Screen.Frame
import Showcase.Text.Blank
import Showcase.Text.Cluster
import Showcase.Text.Columns
import Showcase.Text.Lines

/-!
# Lines of styled text

A line is a list of spans, each a text with one style.  What is drawn of a span are its *glyphs*:
its clusters, each with the number of columns it takes.

`Line.draw` puts a line into one row.  A line that fits is moved to its side; one that does not is
cut, at its left side as its alignment says and at its right side as needed.  A glyph that takes no
column joins the cell before it, and the cells behind a wide glyph are emptied.
-/

namespace Showcase.Screen

/-- A cluster to be drawn. -/
structure Glyph where
  /-- Its characters. -/
  symbol : List Char
  /-- The columns it takes. -/
  width : Nat
  /-- How it looks. -/
  style : Style
  deriving DecidableEq, Repr

/-- Whether a glyph is where a text may be broken: blanks, except the one that forbids a break, and
the break without a width. -/
def Glyph.isBlank (g : Glyph) : Bool :=
  g.symbol == ['\u200B'] || (g.symbol.all Text.isBlank && g.symbol != ['\u00A0'])

/-- The columns of a list of glyphs. -/
def glyphsWidth (gs : List Glyph) : Nat := (gs.map (·.width)).foldr (· + ·) 0

/-- A text with one style. -/
structure Span where
  /-- The text. -/
  text : List Char
  /-- How it looks. -/
  style : Style := {}
  deriving DecidableEq, Repr

namespace Span

/-- A text without a style of its own. -/
def plain (s : String) : Span := ⟨s.toList, {}⟩

/-- A text with a style. -/
def styled (s : String) (style : Style) : Span := ⟨s.toList, style⟩

/-- The columns of a span. -/
def width (s : Span) : Nat := Text.columns s.text

/-- The glyphs of a span; line feeds are not drawn. -/
def glyphs (s : Span) : List Glyph :=
  ((Text.clusters s.text).filter (· != ['\n'])).map fun symbol =>
    ⟨symbol, Text.columns symbol, s.style⟩

end Span

/-- The side to which a line is moved. -/
inductive Align where
  | left
  | center
  | right
  deriving DecidableEq, Repr

/-- A line of styled text. -/
structure Line where
  /-- Its parts. -/
  spans : List Span
  /-- Its side, if it has one of its own. -/
  align : Option Align := none
  deriving DecidableEq, Repr

namespace Line

/-- A line of one span. -/
def ofSpan (s : Span) : Line := ⟨[s], none⟩

/-- A line of plain text; the lines of the text are its spans. -/
def plain (s : String) : Line := ⟨(Text.lineChars s.toList).map (⟨·, {}⟩), none⟩

/-- The same line on a side. -/
def aligned (l : Line) (a : Align) : Line := { l with align := some a }

/-- The columns of a line. -/
def width (l : Line) : Nat := (l.spans.map Span.width).foldr (· + ·) 0

/-- The glyphs of a line. -/
def glyphs (l : Line) : List Glyph := l.spans.flatMap Span.glyphs

end Line

/-! ## Drawing -/

/-- Draws glyphs into a row from column `x` on.  A span begins at column `left`; nothing is drawn
from column `right` on. -/
def drawGlyphs (f : Frame) (y left right x : Nat) (first : Bool) : List Glyph → Frame
  | [] => f
  | g :: gs =>
    let next := x + g.width
    if right < next then f
    else
      let f :=
        if first then f.change x y fun c => (c.withSymbol g.symbol).withStyle g.style
        else if x = left then f.change x y fun c => (c.appending g.symbol).withStyle g.style
        else if g.width = 0 then
          f.change (x - 1) y fun c => (c.appending g.symbol).withStyle g.style
        else f.change x y fun c => (c.withSymbol g.symbol).withStyle g.style
      let f := if g.width ≤ 1 then f else f.clear ⟨x + 1, y, g.width - 1, 1⟩
      drawGlyphs f y left right next false gs

/-- Draws a span at the left side of a row. -/
def Span.draw (s : Span) (f : Frame) (r : Rect) : Frame :=
  if r.isEmpty then f else drawGlyphs f r.y r.x r.right r.x true s.glyphs

/-- The glyphs at the end of a list that fit into so many columns. -/
def lastGlyphs (columns : Nat) (gs : List Glyph) : List Glyph :=
  let rec fit (room : Nat) : List Glyph → List Glyph
    | [] => []
    | g :: gs => if g.width ≤ room then g :: fit (room - g.width) gs else []
  (fit columns gs.reverse).reverse

/-- A span whose first columns are cut off, and how many columns a glyph that was cut in two leaves
free. -/
def Span.cutLeft (s : Span) (columns : Nat) : Span × Nat :=
  let room := s.width - columns
  let kept := lastGlyphs room s.glyphs
  (⟨kept.flatMap (·.symbol), s.style⟩, room - glyphsWidth kept)

/-- Draws spans one after the other, without their first `skip` columns. -/
def drawSpans (f : Frame) (r : Rect) (skip : Nat) : List Span → Frame
  | [] => f
  | s :: spans =>
    if s.width ≤ skip then drawSpans f r (skip - s.width) spans
    else if skip = 0 then
      if r.isEmpty then f else drawSpans (s.draw f r) (r.indent s.width) 0 spans
    else
      let (kept, free) := s.cutLeft skip
      let r := r.indent free
      if r.isEmpty then f else drawSpans (kept.draw f r) (r.indent kept.width) 0 spans

/-- Draws a line into the first row of a rectangle. -/
def Line.draw (l : Line) (f : Frame) (r : Rect) : Frame :=
  let r := { r with height := min r.height 1 }
  let align := l.align.getD .left
  if r.isEmpty || decide (l.width = 0) then f
  else if l.width ≤ r.width then
    let free := r.width - l.width
    drawSpans f (r.indent (match align with
      | .left => 0
      | .center => free / 2
      | .right => free)) 0 l.spans
  else
    let excess := l.width - r.width
    drawSpans f r (match align with
      | .left => 0
      | .center => excess / 2
      | .right => excess) l.spans

end Showcase.Screen
