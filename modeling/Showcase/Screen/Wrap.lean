import Showcase.Screen.Line

/-!
# Breaking lines

A line that is too long for a row is broken at blanks, and inside a word if the word alone is too
long.  The blanks at a break are not shown, as far as they would have had room at the end of the
row.  A line may be *trimmed*: then the blanks at the start of a row are not shown either.

`Wrapping.add` goes through a line glyph by glyph.  It keeps what is sure to stand in the current
row, the blanks after it and the word after these.
-/

namespace Showcase.Screen

/-- The state of breaking a line. -/
structure Wrapping where
  /-- The rows that are complete, last first. -/
  done : List (List Glyph) := []
  /-- What stands in the current row. -/
  row : List Glyph := []
  /-- The blanks after it. -/
  blanks : List Glyph := []
  /-- The word after these. -/
  word : List Glyph := []
  /-- Whether the last glyph belongs to a word. -/
  inWord : Bool := false

namespace Wrapping

/-- Puts the word into the row, and the blanks before it. -/
def settle (w : Wrapping) (trim : Bool) : Wrapping :=
  let blanks := if trim && w.row.isEmpty then [] else w.blanks
  { w with row := w.row ++ blanks ++ w.word, blanks := [], word := [] }

/-- Whether the next glyph ends the word or would be too much for an empty row. -/
def settles (w : Wrapping) (columns : Nat) (trim : Bool) (g : Glyph) : Bool :=
  let word := glyphsWidth w.word
  let blanks := glyphsWidth w.blanks
  let tooWide :=
    if trim then decide (columns < word + g.width) || decide (columns < blanks + g.width)
    else decide (columns < word + blanks + g.width)
  (w.inWord && g.isBlank) || (w.row.isEmpty && tooWide)

/-- Drops blanks from the front while they fit into the room that is left. -/
def dropBlanks (room : Nat) : List Glyph → List Glyph
  | [] => []
  | g :: gs => if g.width ≤ room then dropBlanks (room - g.width) gs else g :: gs

/-- Ends the row. -/
def breakRow (w : Wrapping) (columns : Nat) : Wrapping :=
  { w with
    done := w.row :: w.done
    row := []
    blanks := dropBlanks (columns - glyphsWidth w.row) w.blanks }

/-- Whether the row ends before a glyph. -/
def breaks (w : Wrapping) (columns : Nat) (g : Glyph) : Bool :=
  let row := glyphsWidth w.row
  decide (columns ≤ row) ||
    (decide (0 < g.width) && decide (columns ≤ row + glyphsWidth w.blanks + glyphsWidth w.word))

/-- Adds a glyph to the blanks or to the word. -/
def push (w : Wrapping) (g : Glyph) : Wrapping :=
  if g.isBlank then { w with blanks := w.blanks ++ [g], inWord := false }
  else { w with word := w.word ++ [g], inWord := true }

/-- Goes on by one glyph.  A glyph that is wider than a row is left out. -/
def add (columns : Nat) (trim : Bool) (w : Wrapping) (g : Glyph) : Wrapping :=
  if columns < g.width then w
  else
    let w := if w.settles columns trim g then w.settle trim else w
    if w.breaks columns g then
      let w := w.breakRow columns
      if g.isBlank && w.blanks.isEmpty then w else w.push g
    else w.push g

/-- The rows when the line is over, at least one. -/
def finish (w : Wrapping) (trim : Bool) : List (List Glyph) :=
  let done := if w.row.isEmpty && w.word.isEmpty && !w.blanks.isEmpty then [] :: w.done else w.done
  let row := (w.settle trim).row
  match (if row.isEmpty then done else row :: done).reverse with
  | [] => [[]]
  | rows => rows

end Wrapping

/-- The rows of a line that is broken. -/
def wrapLine (columns : Nat) (trim : Bool) (gs : List Glyph) : List (List Glyph) :=
  (gs.foldl (Wrapping.add columns trim) {}).finish trim

/-- The part of a line that fits into a row: everything before the first glyph that does not fit.
A glyph that is wider than the row is left out. -/
def cutLine (columns : Nat) (gs : List Glyph) : List Glyph :=
  let rec fit (room : Nat) : List Glyph → List Glyph
    | [] => []
    | g :: gs => if g.width ≤ room then g :: fit (room - g.width) gs else []
  fit columns (gs.filter fun g => decide (g.width ≤ columns))

end Showcase.Screen
