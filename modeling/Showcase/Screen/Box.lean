import Showcase.Screen.Line

/-!
# Boxes

A box is a border around a rectangle, with a title in its upper and in its lower side.  Its corners
are drawn after its sides and its titles last, between the corners.
-/

namespace Showcase.Screen

/-- A border with titles. -/
structure Box where
  /-- How the whole rectangle looks. -/
  style : Style := {}
  /-- How the border looks. -/
  border : Style := {}
  /-- How the titles look. -/
  title : Style := {}
  /-- The side of titles that have none of their own. -/
  align : Align := .left
  /-- The title in the upper side. -/
  top : Option Line := none
  /-- The title in the lower side. -/
  bottom : Option Line := none
  deriving Repr

namespace Box

/-- Draws one symbol of the border into all cells of a rectangle. -/
def drawPart (b : Box) (f : Frame) (r : Rect) (symbol : Char) : Frame :=
  f.changeIn r fun c => (c.withSymbol [symbol]).withStyle b.border

/-- Draws the border. -/
def drawBorder (b : Box) (f : Frame) (r : Rect) : Frame :=
  let last := r.right - 1
  let low := r.bottom - 1
  let f := b.drawPart f ⟨r.x, r.y, 1, r.height⟩ '│'
  let f := b.drawPart f ⟨r.x, r.y, r.width, 1⟩ '─'
  let f := b.drawPart f ⟨last, r.y, 1, r.height⟩ '│'
  let f := b.drawPart f ⟨r.x, low, r.width, 1⟩ '─'
  let f := b.drawPart f ⟨last, low, 1, 1⟩ '┘'
  let f := b.drawPart f ⟨last, r.y, 1, 1⟩ '┐'
  let f := b.drawPart f ⟨r.x, low, 1, 1⟩ '└'
  b.drawPart f ⟨r.x, r.y, 1, 1⟩ '┌'

/-- The width of a title is counted in 16 bits. -/
def titleWidth (l : Line) : Nat := l.width % 65536

/-- Where a title stands in a row between the corners. -/
def titleRect (b : Box) (row : Rect) (l : Line) : Rect :=
  let free := row.width - titleWidth l
  let x := match l.align.getD b.align with
    | .left => row.x
    | .center => row.x + free / 2
    | .right => row.x + free
  ⟨x, row.y, min (titleWidth l) row.width, 1⟩

/-- Draws a title into a row between the corners. -/
def drawTitle (b : Box) (f : Frame) (row : Rect) : Option Line → Frame
  | none => f
  | some l =>
    if row.isEmpty then f
    else
      let r := b.titleRect row l
      l.draw (f.restyle r b.title) r

/-- Draws a box. -/
def draw (b : Box) (f : Frame) (r : Rect) : Frame :=
  if r.isEmpty then f
  else
    let f := b.drawBorder (f.restyle r b.style) r
    let f := b.drawTitle f ⟨r.x + 1, r.y, r.width - 2, 1⟩ b.top
    b.drawTitle f ⟨r.x + 1, r.bottom - 1, r.width - 2, 1⟩ b.bottom

end Box

end Showcase.Screen
