import Showcase.App.Overlays
import Showcase.App.Panels

/-!
# The whole screen

The bar with the search takes the upper four rows and the status line the last one; the list or the
source has the rows between them.  The notice stands over all of these, and the help over the
notice.  On a screen that is too small there is only a message.

Drawing looks at the state and does not change it.  The one thing the program remembers of a
drawing is the height of the middle part, since paging depends on it: `App.drawnAt`.
-/

namespace Showcase

open Screen

namespace App

variable {α : Type}

/-- The least width of a screen. -/
def minWidth : Nat := 40

/-- The least height of a screen. -/
def minHeight : Nat := 10

/-- Whether a screen is too small. -/
def tooSmall (width height : Nat) : Bool := decide (width < minWidth) || decide (height < minHeight)

/-- The message on a screen that is too small. -/
def tooSmallMessage : Paragraph :=
  { lines := Paragraph.linesOf ("Terminal too small: need at least " ++ toString minWidth ++ "x" ++
      toString minHeight)
    box := some {}
    style := .ink Palette.red
    overflow := .wrap true }

/-- The upper rows of a screen. -/
def barArea (r : Rect) : Rect := ⟨r.x, r.y, r.width, 4⟩

/-- The rows in the middle of a screen. -/
def bodyArea (r : Rect) : Rect := ⟨r.x, r.y + 4, r.width, r.height - 5⟩

/-- The last row of a screen. -/
def statusArea (r : Rect) : Rect := ⟨r.x, r.y + (r.height - 1), r.width, 1⟩

/-- Draws the middle of the screen. -/
def drawBody (a : App α) (elapsed : Duration) (f : Frame) (r : Rect) : Frame :=
  match a.selection.state with
  | .ready e text => Source.draw f e text a.view.scroll r
  | .loading e => Loading.draw (a.drawList f r) e a.view.spinner elapsed r
  | .idle | .failed _ _ => a.drawList f r

/-- Draws the boxes over the panels. -/
def drawOverlays (a : App α) (f : Frame) (r : Rect) : Frame :=
  let f := match a.view.notice with
    | some n => n.draw f r
    | none => f
  if a.view.help then Help.draw f r else f

/-- The screen at a size.  The duration is how long the load under way has taken so far. -/
def screen (a : App α) (elapsed : Duration) (width height : Nat) : Frame :=
  let f := Frame.blank width height
  if tooSmall width height then tooSmallMessage.draw f f.area
  else
    let r := f.area
    let f := a.drawFilterBar f (barArea r)
    let f := a.drawBody elapsed f (bodyArea r)
    let f := a.drawStatus f (statusArea r)
    a.drawOverlays f r

/-- The state after the screen was drawn at a size. -/
def drawnAt (a : App α) (width height : Nat) : App α :=
  if tooSmall width height then a
  else { a with view := { a.view with viewport := height - 5 } }

end App

end Showcase
