import Showcase.Screen.Rect
import Showcase.Screen.Style

/-!
# Frames

A frame is what the screen shows at one time: a grid of cells, each with a symbol and a look.
Drawing changes cells, one by one with `Frame.change` or all those of a rectangle with
`Frame.changeIn`; what lies outside the frame is left alone.

`Frame.cellAt` is the view of a frame: `cellAt_change` and `cellAt_changeIn` say what the two ways
of drawing do to it.
-/

namespace Showcase.Screen

/-- One place of the screen. -/
structure Cell where
  /-- What is shown there. -/
  symbol : List Char := [' ']
  /-- The colour of the symbol, or the terminal's own. -/
  fg : Option Colour := none
  /-- The colour behind the symbol, or the terminal's own. -/
  bg : Option Colour := none
  /-- Whether the symbol is bold. -/
  bold : Bool := false
  /-- Whether the symbol is italic. -/
  italic : Bool := false
  deriving DecidableEq, Repr

namespace Cell

/-- The cell with another symbol. -/
def withSymbol (c : Cell) (symbol : List Char) : Cell := { c with symbol }

/-- The cell with more characters at the end of its symbol. -/
def appending (c : Cell) (more : List Char) : Cell := { c with symbol := c.symbol ++ more }

/-- The cell with a style applied. -/
def withStyle (c : Cell) (s : Style) : Cell :=
  { symbol := c.symbol
    fg := s.fg.or c.fg
    bg := s.bg.or c.bg
    bold := c.bold || s.bold
    italic := c.italic || s.italic }

/-- Whether two cells look alike, whatever their symbols. -/
def looksLike (c d : Cell) : Bool := c.withSymbol [] == d.withSymbol []

end Cell

/-- A grid of cells, row after row. -/
structure Frame where
  /-- The number of columns. -/
  width : Nat
  /-- The number of rows. -/
  height : Nat
  /-- The cells, row after row. -/
  cells : Array Cell
  /-- Every place has its cell. -/
  size_cells : cells.size = width * height

namespace Frame

/-- A frame of equal cells. -/
def filled (width height : Nat) (c : Cell) : Frame :=
  ⟨width, height, Array.replicate (width * height) c, by simp⟩

/-- An empty frame. -/
def blank (width height : Nat) : Frame := filled width height {}

/-- The whole frame. -/
def area (f : Frame) : Rect := ⟨0, 0, f.width, f.height⟩

/-- The cell at a column and a row; outside of the frame all cells are empty. -/
def cellAt (f : Frame) (x y : Nat) : Cell :=
  if x < f.width then (f.cells[y * f.width + x]?).getD {} else {}

/-- Changes the cell at a column and a row. -/
def change (f : Frame) (x y : Nat) (g : Cell → Cell) : Frame :=
  if x < f.width then
    { f with
      cells := f.cells.modify (y * f.width + x) g
      size_cells := by rw [Array.size_modify, f.size_cells] }
  else f

/-- Changes all cells of a rectangle. -/
def changeIn (f : Frame) (r : Rect) (g : Cell → Cell) : Frame :=
  { f with
    cells := f.cells.mapIdx fun i c => if r.has (i % f.width) (i / f.width) then g c else c
    size_cells := by rw [Array.size_mapIdx, f.size_cells] }

/-- Applies a style to all cells of a rectangle. -/
def restyle (f : Frame) (r : Rect) (s : Style) : Frame := f.changeIn r (·.withStyle s)

/-- Empties all cells of a rectangle. -/
def clear (f : Frame) (r : Rect) : Frame := f.changeIn r fun _ => {}

/-- The symbols of a row, one after the other. -/
def rowText (f : Frame) (y : Nat) : String :=
  String.ofList ((List.range f.width).flatMap fun x => (f.cellAt x y).symbol)

/-- The cells of a row in runs that look alike, each as its first cell and its length. -/
def rowRuns (f : Frame) (y : Nat) : List (Cell × Nat) :=
  let cells := (List.range f.width).map (f.cellAt · y)
  (cells.splitBy fun a b => a.looksLike b).filterMap fun run =>
    run.head?.map fun c => (c, run.length)

/-! ## What drawing does to a cell -/

/-- Two places of a grid with one number are the same place. -/
theorem place_inj {width x y x' y' : Nat} (h : x < width) (h' : x' < width)
    (same : y * width + x = y' * width + x') : x = x' ∧ y = y' := by
  have hx : (y * width + x) % width = x := by
    rw [Nat.add_comm, Nat.add_mul_mod_self_right, Nat.mod_eq_of_lt h]
  have hx' : (y' * width + x') % width = x' := by
    rw [Nat.add_comm, Nat.add_mul_mod_self_right, Nat.mod_eq_of_lt h']
  have hxx : x = x' := by rw [← hx, ← hx', same]
  subst hxx
  exact ⟨rfl, Nat.eq_of_mul_eq_mul_right (by omega) (Nat.add_right_cancel same)⟩

@[simp] theorem width_change (f : Frame) (x y : Nat) (g : Cell → Cell) :
    (f.change x y g).width = f.width := by
  unfold change; split <;> rfl

@[simp] theorem height_change (f : Frame) (x y : Nat) (g : Cell → Cell) :
    (f.change x y g).height = f.height := by
  unfold change; split <;> rfl

@[simp] theorem width_changeIn (f : Frame) (r : Rect) (g : Cell → Cell) :
    (f.changeIn r g).width = f.width := rfl

@[simp] theorem height_changeIn (f : Frame) (r : Rect) (g : Cell → Cell) :
    (f.changeIn r g).height = f.height := rfl

/-- A place of the frame has its cell among the cells. -/
theorem place_lt (f : Frame) {x y : Nat} (hx : x < f.width) (hy : y < f.height) :
    y * f.width + x < f.cells.size := by
  rw [f.size_cells]
  calc y * f.width + x < y * f.width + f.width := by omega
    _ = (y + 1) * f.width := by rw [Nat.succ_mul]
    _ ≤ f.height * f.width := Nat.mul_le_mul_right _ hy
    _ = f.width * f.height := Nat.mul_comm _ _

/-- Changing a cell of the frame changes that cell only. -/
theorem cellAt_change (f : Frame) {x y : Nat} (g : Cell → Cell) (hx : x < f.width)
    (hy : y < f.height) (x' y' : Nat) :
    (f.change x y g).cellAt x' y' =
      if x' = x ∧ y' = y then g (f.cellAt x y) else f.cellAt x' y' := by
  have hlt := f.place_lt hx hy
  by_cases hx' : x' < f.width
  · by_cases same : y' * f.width + x' = y * f.width + x
    · obtain ⟨rfl, rfl⟩ := place_inj hx' hx same
      simp [cellAt, change, hx, hlt, Array.getElem_modify]
    · have : ¬(x' = x ∧ y' = y) := by
        rintro ⟨rfl, rfl⟩
        exact same rfl
      simp [cellAt, change, hx, hx', Array.getElem?_modify, Ne.symm same, this]
  · have : ¬(x' = x ∧ y' = y) := by
      rintro ⟨rfl, rfl⟩
      exact hx' hx
    simp [cellAt, change, hx, hx', this]

/-- Changing a rectangle changes the cells that it has. -/
theorem cellAt_changeIn (f : Frame) (r : Rect) (g : Cell → Cell) {x y : Nat} (hx : x < f.width)
    (hy : y < f.height) :
    (f.changeIn r g).cellAt x y = if r.has x y then g (f.cellAt x y) else f.cellAt x y := by
  have hlt := f.place_lt hx hy
  have hmod : (y * f.width + x) % f.width = x := by
    rw [Nat.add_comm, Nat.add_mul_mod_self_right, Nat.mod_eq_of_lt hx]
  have hdiv : (y * f.width + x) / f.width = y := by
    rw [Nat.add_comm, Nat.add_mul_div_right _ _ (by omega : 0 < f.width), Nat.div_eq_of_lt hx,
      Nat.zero_add]
  simp [cellAt, changeIn, hx, hlt, hmod, hdiv]

end Frame

end Showcase.Screen
