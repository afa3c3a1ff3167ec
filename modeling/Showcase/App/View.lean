import Showcase.App.Notice

/-!
# The view

What is on display apart from the list and the source themselves: where the cursor stands in the
list, how far the source is scrolled, whether the search has the keyboard, whether the help is
open, and the notice.

Positions on the screen and in a source are counted in 16 bits, so a scroll position never passes
`wordMax`; the spinner counts in 64 bits and starts over after the last value.
-/

namespace Showcase

/-- What is on display apart from the list and the source. -/
structure View where
  /-- Whether typed characters go to the search. -/
  searching : Bool := false
  /-- Whether the help is open. -/
  help : Bool := false
  /-- The row of the list that is highlighted. -/
  cursor : Option Nat := some 0
  /-- The first line of the source that is shown. -/
  scroll : Nat := 0
  /-- The height of the panel of the source when it was last drawn. -/
  viewport : Nat := 20
  /-- The notice. -/
  notice : Option Notice := none
  /-- The number of turns of the spinner. -/
  spinner : Nat := 0
  /-- How long a notice that goes away by itself is shown, in milliseconds. -/
  infoMs : Nat := 3000
  deriving DecidableEq, Repr

namespace View

/-- The greatest value of 16 bits. -/
def wordMax : Nat := 65535

/-- The number of values of 64 bits. -/
def longLimit : Nat := 18446744073709551616

/-! ## The cursor -/

/-- Keeps the cursor on one of `len` rows; without rows there is no cursor. -/
def clampCursor (v : View) (len : Nat) : View :=
  { v with cursor := if len = 0 then none else some (min (v.cursor.getD 0) (len - 1)) }

/-- Moves the cursor a row up. -/
def cursorUp (v : View) (len : Nat) : View :=
  if len = 0 then v else { v with cursor := some (v.cursor.elim 0 (· - 1)) }

/-- Moves the cursor a row down. -/
def cursorDown (v : View) (len : Nat) : View :=
  if len = 0 then v
  else { v with cursor := some (v.cursor.elim 0 fun row => min (row + 1) (len - 1)) }

/-- Puts the cursor on the first row. -/
def cursorFirst (v : View) (len : Nat) : View :=
  { v with cursor := if len = 0 then none else some 0 }

/-- Puts the cursor on the last row. -/
def cursorLast (v : View) (len : Nat) : View :=
  { v with cursor := if len = 0 then none else some (len - 1) }

/-! ## Scrolling -/

/-- Shows the source from its first line. -/
def resetScroll (v : View) : View := { v with scroll := 0 }

/-- The greatest scroll position in a source of so many lines. -/
def maxScroll (lineCount : Nat) : Nat := min (lineCount - 1) wordMax

/-- Scrolls by a number of lines, within a source of so many lines. -/
def scrollBy (v : View) (delta : Int) (lineCount : Nat) : View :=
  { v with scroll := min ((v.scroll : Int) + delta).toNat (maxScroll lineCount) }

/-- The number of lines of a page: what the panel shows between its borders, at least one. -/
def page (v : View) : Nat := max (v.viewport - 2) 1

/-! ## Help -/

/-- Opens the help or closes it. -/
def toggleHelp (v : View) : View := { v with help := !v.help }

/-- Closes the help. -/
def closeHelp (v : View) : View := { v with help := false }

/-! ## Notices -/

/-- Shows a notice. -/
def notify (v : View) (now : Nat) (level : Notice.Level) (message : String)
    (lifeMs : Option Nat) : View :=
  { v with notice := some { level, message, shownAt := now, lifeMs } }

/-- Tells something in passing. -/
def tellInfo (v : View) (now : Nat) (message : String) : View :=
  v.notify now .info message (some v.infoMs)

/-- Warns; a warning is shown twice as long. -/
def tellWarning (v : View) (now : Nat) (message : String) : View :=
  v.notify now .warning message (some (min (v.infoMs * 2) (longLimit - 1)))

/-- Tells of a success in passing. -/
def tellSuccess (v : View) (now : Nat) (message : String) : View :=
  v.notify now .success message (some v.infoMs)

/-- Tells of a fault until it is dismissed. -/
def tellError (v : View) (now : Nat) (message : String) : View :=
  v.notify now .error message none

/-- Whether the notice tells of a fault. -/
def hasErrorNotice (v : View) : Bool := v.notice.any (·.level == .error)

/-- Takes the notice away. -/
def dropNotice (v : View) : View := { v with notice := none }

/-- Whether the notice has been shown long enough. -/
def noticeIsOver (v : View) (now : Nat) : Bool := v.notice.any (·.isOver now)

/-- Takes the notice away if it has been shown long enough. -/
def expireNotice (v : View) (now : Nat) : View := if v.noticeIsOver now then v.dropNotice else v

/-! ## The spinner -/

/-- Turns the spinner. -/
def spin (v : View) : View := { v with spinner := (v.spinner + 1) % longLimit }

/-- Turns the spinner so many times. -/
def spinBy (v : View) (times : Nat) : View :=
  { v with spinner := (v.spinner + times) % longLimit }

end View

end Showcase
