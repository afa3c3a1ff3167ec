import Showcase.App.Notice
import Showcase.Catalog.Entry
import Showcase.Duration.Tenths
import Showcase.Screen.Paragraph

/-!
# Boxes over the panels

Three boxes can stand over the panels: the help, the box of a load under way and the notice.  Each
has a function that says where it stands and one that draws it there.
-/

namespace Showcase

open Screen

/-! ## Help -/

namespace Help

/-- The head of a group of keys. -/
def head (s : String) : Line := .ofSpan (.styled s (.ink Palette.cyan))

/-- The text of the help. -/
def lines : List Line := [
  .ofSpan (.styled "Browsing" (Style.ink Palette.yellow).strong),
  .plain "",
  head "List:",
  .plain "  ↑↓ / j k       Move highlight",
  .plain "  Home/End g G   First / last sample",
  .plain "  Enter          Open highlighted sample",
  .plain "  r              Retry the failed selection",
  .plain "",
  head "Filter:",
  .plain "  /              Focus search (Enter/Esc to leave)",
  .plain "  Ctrl+U         Clear search text",
  .plain "  Tab / Shift+Tab  Next / previous category",
  .plain "",
  head "Source panel:",
  .plain "  ↑↓ / j k       Scroll one line",
  .plain "  PgUp/PgDn      Scroll one page",
  .plain "  Esc / q        Close panel",
  .plain "",
  head "Application:",
  .plain "  Esc            Dismiss notice",
  .plain "  ?              Toggle this help",
  .plain "  q / Ctrl+C     Quit"]

/-- Where the help stands. -/
def area (r : Rect) : Rect := r.centered 70 80

/-- The help as a paragraph. -/
def paragraph : Paragraph :=
  { lines := lines
    box := some
      { style := .ground Palette.ground
        border := .ink Palette.cyan
        align := .center
        top := some (.plain " Sample Browser Help ")
        bottom := some ((Line.plain " [Esc/?] close ").aligned .center) }
    style := .ink Palette.plain
    overflow := .wrap false }

/-- Draws the help. -/
def draw (f : Frame) (r : Rect) : Frame := paragraph.draw (f.clear (area r)) (area r)

end Help

/-! ## A load under way -/

namespace Loading

/-- The pictures of the spinner, one after the other. -/
def pictures : List String := ["⣾", "⣽", "⣻", "⢿", "⡿", "⣟", "⣯", "⣷"]

/-- The picture of the spinner after so many turns. -/
def picture (turns : Nat) : String := (pictures[turns % 8]?).getD ""

/-- Where the box stands. -/
def area (r : Rect) : Rect := r.middle 48 5

/-- The box as a paragraph. -/
def paragraph (e : Entry) (turns : Nat) (elapsed : Duration) : Paragraph :=
  { lines := [
      ⟨[.styled (picture turns ++ " ") (.ink Palette.cyan),
        .styled e.title (Style.ink Palette.yellow).strong], none⟩,
      .plain (e.key ++ " • " ++ elapsed.tenths),
      .ofSpan (.styled "select another sample to cancel" Palette.description)]
    box := some
      { style := Palette.panel
        border := .ink Palette.purple
        align := .center
        top := some (.plain " Loading ") }
    align := .center }

/-- Draws the box of a load. -/
def draw (f : Frame) (e : Entry) (turns : Nat) (elapsed : Duration) (r : Rect) : Frame :=
  (paragraph e turns elapsed).draw (f.clear (area r)) (area r)

end Loading

/-! ## Notices -/

namespace Notice

/-- The colour of a notice. -/
def Level.colour : Level → Colour
  | info => Palette.cyan
  | warning => Palette.yellow
  | error => Palette.red
  | success => Palette.green

/-- The sign of a notice. -/
def Level.sign : Level → String
  | info => "ℹ"
  | warning => "⚠"
  | error => "✕"
  | success => "✓"

/-- The title of a notice. -/
def Level.title (level : Level) : String := " " ++ level.sign ++ " " ++ level.name ++ " "

/-- The quotient of two numbers, rounded up. -/
def divUp (n d : Nat) : Nat := (n + d - 1) / d

/-- Where a notice with a message stands: in the lower right corner, one cell from the edges.  Its
height is reckoned from the bytes of the message. -/
def area (r : Rect) (message : String) : Rect :=
  let width := min r.width 60
  let rows := min (divUp message.utf8ByteSize (max (width - 2) 1)) 65535
  let height := min (min (rows + 2) 65535) r.height
  ⟨r.x + (r.width - (width + 1)), r.y + (r.height - (height + 1)), width, height⟩

/-- A notice as a paragraph.  One that stays says how to make it go. -/
def paragraph (n : Notice) : Paragraph :=
  let border := Style.ink n.level.colour
  { lines := Paragraph.linesOf n.message
    box := some
      { style := .ground Palette.ground
        border
        title := border.strong
        top := some (.plain n.level.title)
        bottom :=
          if n.lifeMs.isNone then some ((Line.plain " [Esc] dismiss  [r] retry ").aligned .right)
          else none }
    style := .ink Palette.plain
    overflow := .wrap true }

/-- Draws a notice. -/
def draw (n : Notice) (f : Frame) (r : Rect) : Frame :=
  let place := area r n.message
  n.paragraph.draw (f.clear place) place

end Notice

end Showcase
