/-!
# Rectangles of the screen

A rectangle is given by its upper left corner and its size, in cells.  The operations here cut
smaller rectangles out of a rectangle: the inside of a border, a box in the middle, a share of the
width and height in the middle, a strip at an edge.
-/

namespace Showcase.Screen

/-- A rectangle of cells. -/
structure Rect where
  /-- The column of the left edge. -/
  x : Nat
  /-- The row of the upper edge. -/
  y : Nat
  /-- The number of columns. -/
  width : Nat
  /-- The number of rows. -/
  height : Nat
  deriving DecidableEq, Repr

namespace Rect

/-- The column after the right edge. -/
def right (r : Rect) : Nat := r.x + r.width

/-- The row after the lower edge. -/
def bottom (r : Rect) : Nat := r.y + r.height

/-- Whether a rectangle has no cell. -/
def isEmpty (r : Rect) : Bool := decide (r.width = 0) || decide (r.height = 0)

/-- Whether a cell lies in a rectangle. -/
def has (r : Rect) (x y : Nat) : Bool :=
  decide (r.x ≤ x) && decide (x < r.right) && decide (r.y ≤ y) && decide (y < r.bottom)

/-- A rectangle lies inside another one. -/
def Inside (r outer : Rect) : Prop :=
  outer.x ≤ r.x ∧ r.right ≤ outer.right ∧ outer.y ≤ r.y ∧ r.bottom ≤ outer.bottom

instance (r outer : Rect) : Decidable (r.Inside outer) :=
  inferInstanceAs (Decidable (_ ∧ _ ∧ _ ∧ _))

/-- The inside of a border that is one cell wide. -/
def inner (r : Rect) : Rect :=
  ⟨min (r.x + 1) r.right, min (r.y + 1) r.bottom, r.width - 2, r.height - 2⟩

/-- A rectangle without its first columns. -/
def indent (r : Rect) (columns : Nat) : Rect :=
  ⟨min (r.x + columns) r.right, r.y, r.width - columns, r.height⟩

/-- The row of a rectangle with a number, counted from its upper edge. -/
def row (r : Rect) (n : Nat) : Rect := ⟨r.x, r.y + n, r.width, 1⟩

/-- A box of a size in the middle of a rectangle, or as much of it as there is room for. -/
def middle (r : Rect) (width height : Nat) : Rect :=
  let w := min width r.width
  let h := min height r.height
  ⟨r.x + (r.width - w) / 2, r.y + (r.height - h) / 2, w, h⟩

/-- A hundredth of a length, so many times; a half goes up. -/
def share (length percent : Nat) : Nat := (length * percent + 50) / 100

/-- The middle of a length that is so many hundredths of it: where it starts and how long it is.
Both ends are rounded to whole cells. -/
def middleShare (length percent : Nat) : Nat × Nat :=
  let margin := (100 - percent) / 2
  let start := share length margin
  (start, share length (margin + percent) - start)

/-- A share of the width and of the height in the middle of a rectangle, in hundredths. -/
def centered (r : Rect) (percentX percentY : Nat) : Rect :=
  let (x, width) := middleShare r.width percentX
  let (y, height) := middleShare r.height percentY
  ⟨r.x + x, r.y + y, width, height⟩

/-- The last columns of a rectangle, and the columns before them. -/
def splitRight (r : Rect) (columns : Nat) : Rect × Rect :=
  let w := min columns r.width
  (⟨r.x, r.y, r.width - w, r.height⟩, ⟨r.x + (r.width - w), r.y, w, r.height⟩)

end Rect

end Showcase.Screen
