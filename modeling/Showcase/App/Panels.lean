import Showcase.App.State
import Showcase.Screen.Listing
import Showcase.Screen.Paragraph

/-!
# Panels

The parts of the screen that do not cover each other: the bar with the search and the categories,
the list of entries or the source of one, and the status line.
-/

namespace Showcase

open Screen

/-! ## The source of an entry -/

namespace Source

/-- A number with blanks before it, so that it takes so many columns. -/
def padded (width n : Nat) : String :=
  let digits := toString n
  String.ofList (List.replicate (width - digits.length) ' ') ++ digits

/-- A line of a source with its number. -/
def numbered (width n : Nat) (line : List Char) : Line :=
  ⟨[.styled (padded width n ++ " │ ") Palette.lineNumber, ⟨line, {}⟩], none⟩

/-- The lines of a source with their numbers. -/
def lines (text : String) : List Line :=
  let ls := Text.lineChars text.toList
  let width := (toString (max ls.length 1)).length
  ls.mapIdx fun i line => numbered width (i + 1) line

/-- A source as a paragraph. -/
def paragraph (e : Entry) (text : String) (scroll : Nat) : Paragraph :=
  { lines := lines text
    box := some
      { border := Palette.border true
        top := some (.plain (" " ++ e.title ++ " · " ++ e.key ++ " (read-only) "))
        bottom := some (.plain (" line " ++ toString (scroll + 1) ++ "/" ++
          toString (max (Text.lineCount text) 1) ++ "  [↑/↓] scroll  [Esc] close ")) }
    style := Palette.panel
    scroll }

/-- Draws a source. -/
def draw (f : Frame) (e : Entry) (text : String) (scroll : Nat) (r : Rect) : Frame :=
  (paragraph e text scroll).draw (f.clear r) r

end Source

namespace App

variable {α : Type}

/-! ## Search and categories -/

/-- The line with the search. -/
def searchLine (a : App α) : Line :=
  let hint : List Span :=
    if a.view.searching then [.styled "▏" (.ink Palette.yellow)]
    else if a.filter.query.isEmpty then [.styled "press / to type" Palette.description]
    else []
  ⟨[.styled "Search: " (Style.ink Palette.yellow).strong, .plain a.filter.query] ++ hint, none⟩

/-- The line with the categories. -/
def chipLine (a : App α) : Line :=
  ⟨a.categories.flatMap fun c =>
    [.styled (" " ++ c ++ " ") (Palette.chip (c == a.filter.category)), .plain " "], none⟩

/-- Draws the bar with the search and the categories. -/
def drawFilterBar (a : App α) (f : Frame) (r : Rect) : Frame :=
  let p : Paragraph :=
    { lines := [a.searchLine, a.chipLine]
      box := some { border := Palette.border a.view.searching, top := some (.plain " Samples ") }
      style := Palette.panel }
  p.draw f r

/-! ## The list -/

/-- The box around the list; its title counts the entries. -/
def listBox (a : App α) : Box :=
  let total := toString a.catalog.size
  let title :=
    if a.filter.isActive then
      " " ++ toString a.visible.length ++ " of " ++ total ++ " samples "
    else " " ++ total ++ " samples "
  { border := Palette.border (!a.view.searching), top := some (.plain title) }

/-- The two lines of an entry in the list. -/
def entryLines (e : Entry) : List Line := [
  ⟨[.plain e.title, .plain "  ", .styled ("[" ++ e.category ++ "]") Palette.category,
    .styled ("  " ++ e.key) Palette.lineNumber], none⟩,
  .ofSpan (.styled ("  " ++ e.description) Palette.description)]

/-- What is shown when no entry is visible. -/
def nothingFound (a : App α) : Paragraph :=
  { lines := [.ofSpan (.styled "No samples match the current filter" Palette.description)]
    box := some a.listBox
    style := Palette.panel }

/-- The visible entries as a listing. -/
def listing (a : App α) : Listing :=
  { items := a.visibleEntries.map entryLines
    itemHeight := 2
    box := a.listBox
    style := Palette.panel
    highlight := Palette.highlight
    mark := .plain "▶ "
    selected := a.view.cursor }

/-- Draws the list. -/
def drawList (a : App α) (f : Frame) (r : Rect) : Frame :=
  if a.visible.isEmpty then a.nothingFound.draw f r else a.listing.draw f r

/-! ## The status line -/

/-- The left part of the status line: mode, selection, filter and counts. -/
def statusText (a : App α) : String :=
  let state := a.selection.state
  let selected := match state.entry? with
    | some e => state.label ++ " (" ++ e.key ++ ")"
    | none => state.label
  let query := if a.filter.query.isEmpty then "" else " \"" ++ a.filter.query ++ "\""
  " " ++ a.mode.name ++ " | " ++ selected ++ " | " ++ a.filter.category ++ query ++ " • " ++
    toString a.visible.length ++ "/" ++ toString a.catalog.size ++ " "

/-- The right part of the status line: what keys do. -/
def keyHint : Mode → String
  | .browse => "/ search  Tab category  Enter open  ? help  q quit "
  | .search => "type to filter  Enter/Esc done "
  | .source => "↑↓ scroll  Esc close "
  | .help => "Esc close "

/-- The colour of a mode. -/
def modeColour : Mode → Colour
  | .browse => Palette.purple
  | .search => Palette.yellow
  | .source => Palette.green
  | .help => Palette.cyan

/-- Draws the status line.  What keys do has the room that it needs. -/
def drawStatus (a : App α) (f : Frame) (r : Rect) : Frame :=
  let hint := keyHint a.mode
  let (left, right) := r.splitRight hint.length
  let status : Paragraph :=
    { lines := Paragraph.linesOf a.statusText
      style := { bg := some Palette.cursorRow, fg := some (modeColour a.mode) } }
  let keys : Paragraph :=
    { lines := Paragraph.linesOf hint
      style := { bg := some Palette.cursorRow, fg := some Palette.faint }
      align := .right }
  keys.draw (status.draw f left) right

end App

end Showcase
