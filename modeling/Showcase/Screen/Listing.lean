import Showcase.Screen.Box

/-!
# Listings

A listing shows items below each other, each of the same number of lines, with a box around them.
It is not scrolled by hand: it begins with its first item, unless the selected item would not be
shown then; in that case the selected item is the last one shown.

If an item is selected, all items are indented to make room for the mark of the selected one.
-/

namespace Showcase.Screen

/-- Items below each other. -/
structure Listing where
  /-- The lines of each item. -/
  items : List (List Line)
  /-- The number of lines of an item. -/
  itemHeight : Nat
  /-- The box around them. -/
  box : Box
  /-- How they look. -/
  style : Style
  /-- How the selected item looks. -/
  highlight : Style
  /-- The mark of the selected item. -/
  mark : Span
  /-- The number of the selected item. -/
  selected : Option Nat

namespace Listing

/-- The selected item; a number beyond the last item stands for the last one. -/
def current (l : Listing) : Option Nat := l.selected.map (min · (l.items.length - 1))

/-- The first item shown, if there is room for `room` items. -/
def first (l : Listing) (room : Nat) : Nat := (l.current.getD 0) + 1 - room

/-- The numbered items shown, if there is room for `room` items. -/
def shown (l : Listing) (room : Nat) : List (Nat × List Line) :=
  (((List.range l.items.length).zip l.items).drop (l.first room)).take room

/-- Draws lines one below the other. -/
def drawLines (f : Frame) (r : Rect) : List Line → Frame
  | [] => f
  | line :: lines =>
    drawLines (line.draw f (r.row 0)) { r with y := r.y + 1, height := r.height - 1 } lines

/-- Draws the mark in front of an item, or blanks. -/
def drawMark (l : Listing) (f : Frame) (r : Rect) (isCurrent : Bool) (row : Nat) : Frame :=
  let text := if isCurrent && row == 0 then l.mark.text else List.replicate l.mark.width ' '
  let span : Span := ⟨text, l.style⟩
  span.draw f (r.row row)

/-- Draws an item. -/
def drawItem (l : Listing) (f : Frame) (r : Rect) (item : Nat × List Line) : Frame :=
  let isCurrent := l.current == some item.1
  let f := f.restyle r l.style
  let f :=
    match l.current with
    | none => drawLines f r item.2
    | some _ =>
      (List.range item.2.length).foldl (fun f row => l.drawMark f r isCurrent row)
        (drawLines f (r.indent l.mark.width) item.2)
  if isCurrent then f.restyle r l.highlight else f

/-- Draws items one below the other. -/
def drawItems (l : Listing) (f : Frame) (r : Rect) : List (Nat × List Line) → Frame
  | [] => f
  | item :: items =>
    drawItems l (l.drawItem f { r with height := l.itemHeight } item)
      { r with y := r.y + l.itemHeight } items

/-- Draws a listing. -/
def draw (l : Listing) (f : Frame) (r : Rect) : Frame :=
  let f := l.box.draw (f.restyle r l.style) r
  let inner := r.inner
  if inner.isEmpty then f else l.drawItems f inner (l.shown (inner.height / l.itemHeight))

end Listing

end Showcase.Screen
