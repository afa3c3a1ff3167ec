import Showcase.Screen.Frame
import Showcase.Text.Columns

/-!
# Painting a frame

A frame as the text that shows it on a terminal: each row is reached by its number, and the looks of
a run of cells are set before its symbols are written.
-/

namespace Showcase.Screen

/-- What starts a control sequence. -/
def escape : String := "\x1b["

/-- The codes of a colour, after the code that says what it is for. -/
def colourCodes (purpose : String) : Option Colour → String
  | none => ""
  | some c =>
    ";" ++ purpose ++ ";2;" ++ toString c.red.toNat ++ ";" ++ toString c.green.toNat ++ ";" ++
      toString c.blue.toNat

/-- Sets the looks of a cell. -/
def Cell.codes (c : Cell) : String :=
  escape ++ "0" ++ (if c.bold then ";1" else "") ++ (if c.italic then ";3" else "") ++
    colourCodes "38" c.fg ++ colourCodes "48" c.bg ++ "m"

namespace Frame

/-- The symbols of cells; a cell that a wide symbol covers is left out. -/
def symbols : List Cell → List Char
  | [] => []
  | c :: d :: cells =>
    if Text.columns c.symbol = 2 then c.symbol ++ symbols cells else c.symbol ++ symbols (d :: cells)
  | [c] => c.symbol

/-- A row of a frame, with the looks of its cells set before each run of them. -/
def paintRow (f : Frame) (y : Nat) : String :=
  let rec go (x : Nat) : List (Cell × Nat) → String
    | [] => ""
    | (c, n) :: runs =>
      let cells := (List.range n).map fun i => f.cellAt (x + i) y
      c.codes ++ String.ofList (symbols cells) ++ go (x + n) runs
  go 0 (f.rowRuns y)

/-- A frame as the text that shows it. -/
def paint (f : Frame) : String :=
  String.join ((List.range f.height).map fun y =>
    escape ++ toString (y + 1) ++ ";1H" ++ f.paintRow y) ++ escape ++ "0m"

end Frame

end Showcase.Screen
