import Showcase.App.Key
import Showcase.App.View
import Showcase.Catalog.Filter
import Showcase.Text.Lines

/-!
# The application

The state of the whole program, and what every action does to it.  The list of visible entries is
kept beside the filter that it comes from; every edit of the filter computes it anew and puts the
cursor back on one of its rows.

An action can start a load.  `App.handle` returns it as a job and does not run it: what the load
brings comes back as another action.  Time is an argument of `handle`, in milliseconds.
-/

namespace Showcase

/-- The state of the program. -/
structure App (α : Type) where
  /-- The entries to choose from. -/
  catalog : Catalog
  /-- The categories to choose from. -/
  categories : List String
  /-- What the list is narrowed to. -/
  filter : Filter
  /-- The places of the visible entries in the catalog. -/
  visible : List Nat
  /-- What else is on display. -/
  view : View
  /-- The loaders. -/
  registry : Registry α
  /-- The selection. -/
  selection : Selection
  /-- How long a load may take. -/
  timeout : Duration
  /-- Whether the screen is to be drawn anew. -/
  redraw : Bool

namespace App

variable {α : Type}

/-! ## The list -/

/-- Computes the visible entries anew. -/
def refresh (a : App α) : App α :=
  let visible := a.filter.indices a.catalog.entries
  { a with visible, view := a.view.clampCursor visible.length, redraw := true }

/-- The state at the start. -/
def start (catalog : Catalog) (registry : Registry α) (timeout : Duration) (view : View) : App α :=
  refresh
    { catalog, categories := catalog.categories, filter := {}, visible := [], view, registry,
      selection := {}, timeout, redraw := true }

/-- The same with another filter. -/
def refilter (a : App α) (filter : Filter) : App α := { a with filter }.refresh

/-- The visible entries. -/
def visibleEntries (a : App α) : List Entry := a.visible.filterMap (a.catalog.entries[·]?)

/-- The entry under the cursor. -/
def highlighted? (a : App α) : Option Entry := do
  let row ← a.view.cursor
  let place ← a.visible[row]?
  a.catalog.entries[place]?

/-- How keys are read. -/
def mode (a : App α) : Mode :=
  if a.view.help then .help
  else if a.selection.state.isReady then .source
  else if a.view.searching then .search
  else .browse

/-- The number of lines of the source that is shown. -/
def lineCount (a : App α) : Nat :=
  match a.selection.state.text? with
  | some text => Text.lineCount text
  | none => 0

/-- The same, to be drawn anew. -/
def dirty (a : App α) : App α := { a with redraw := true }

/-- The same with another view, to be drawn anew. -/
def reshow (a : App α) (view : View) : App α := { a with view, redraw := true }

/-! ## The selection -/

/-- Shows the fault of the selection, if it has one. -/
def surfaceFault (a : App α) (now : Nat) : App α :=
  match a.selection.state.fault? with
  | some fault => { a with view := a.view.tellError now fault.message }
  | none => a

/-- Opens an entry: it is selected, a fault told before is forgotten, and the search gives the
keyboard back. -/
def openEntry (a : App α) (now : Nat) (e : Entry) : App α × Option (Job α) :=
  let view := if a.view.hasErrorNotice then a.view.dropNotice else a.view
  let view := { view with searching := false }.resetScroll
  let (selection, job) := a.selection.select a.registry e
  ({ a with view, selection }.surfaceFault now |>.dirty, job)

/-- Opens the entry under the cursor. -/
def openHighlighted (a : App α) (now : Nat) : App α × Option (Job α) :=
  match a.highlighted? with
  | some e => a.openEntry now e
  | none => (a, none)

/-- Tells that a load is tried again, if one is. -/
def tellRetry (a : App α) (now : Nat) : App α :=
  match a.selection.state with
  | .loading e =>
    { a with view := a.view.tellInfo now ("Retrying " ++ e.title ++ " (" ++ e.key ++ ")") }
  | _ => a

/-- Tries the load again whose fault is shown; `none` if there is no such load. -/
def retry? (a : App α) (now : Nat) : Option (App α × Option (Job α)) :=
  match a.selection.retry? a.registry with
  | none => none
  | some (selection, job) =>
    some (({ a with selection, view := a.view.dropNotice }.surfaceFault now).tellRetry now |>.dirty,
      job)

/-- Tells that the source is there. -/
def tellLoaded (a : App α) (now : Nat) : App α :=
  match a.selection.state.entry? with
  | some e =>
    let message := "Loaded " ++ e.title ++ " (" ++ toString a.lineCount ++ " lines)"
    { a with view := a.view.tellSuccess now message }
  | none => a

/-- Takes the report of a load. -/
def receive (a : App α) (now : Nat) (report : Report) : App α :=
  match a.selection.complete report.generation report.result with
  | (.ready, selection) =>
    ({ a with selection, view := a.view.resetScroll }.tellLoaded now).dirty
  | (.failed, selection) => ({ a with selection }.surfaceFault now).dirty
  | (.stale, _) => a

/-- Closes one thing: the help, the source, the notice with the fault behind it, or the search, in
this order; `none` if there is nothing to close. -/
def dismiss? (a : App α) : Option (App α) :=
  if a.view.help then some (a.reshow a.view.closeHelp)
  else if a.selection.state.isReady then
    some { a with selection := a.selection.dismiss?.getD a.selection, redraw := true }
  else if a.view.notice.isSome then
    let selection :=
      if a.selection.state.isFailed then a.selection.dismiss?.getD a.selection else a.selection
    some { a with selection, view := a.view.dropNotice, redraw := true }
  else if a.view.searching then some (a.reshow { a.view with searching := false })
  else none

/-- Scrolls the source. -/
def scroll (a : App α) (delta : Int) : App α := a.reshow (a.view.scrollBy delta a.lineCount)

/-- A tick: the spinner turns while a source is on its way, and a notice may go away. -/
def tick (a : App α) (now : Nat) : App α :=
  let a := if a.selection.state.isLoading then a.reshow a.view.spin else a
  if a.view.noticeIsOver now then a.reshow a.view.dropNotice else a

/-! ## Reports at startup -/

/-- Warns of entries without a loader. -/
def reportAudit (a : App α) (now : Nat) (audit : Registry.Audit) : App α :=
  if audit.missing.isEmpty then a
  else a.reshow (a.view.tellWarning now
    (toString audit.missing.length ++ " sample(s) have no source and will fail to open: " ++
      ", ".intercalate audit.missing))

/-- Tells of a fault. -/
def reportFault (a : App α) (now : Nat) (fault : Fault) : App α :=
  a.reshow (a.view.tellError now fault.message)

/-! ## Actions -/

/-- What an action leads to. -/
structure Outcome (α : Type) where
  /-- The state after it. -/
  app : App α
  /-- A load to be started. -/
  job : Option (Job α) := none
  /-- Whether the program goes on. -/
  goesOn : Bool := true

/-- Performs an action. -/
def handle (a : App α) (now : Nat) : Action → Outcome α
  | .quit => { app := a, goesOn := false }
  | .resize _ _ => { app := a.dirty }
  | .tick => { app := a.tick now }
  | .focusSearch => { app := a.reshow { a.view with searching := true } }
  | .blurSearch => { app := a.reshow { a.view with searching := false } }
  | .queryInput c => { app := a.refilter (a.filter.push c) }
  | .queryBackspace =>
    match a.filter.pop? with
    | some filter => { app := a.refilter filter }
    | none => { app := a }
  | .clearQuery => { app := a.refilter a.filter.clearQuery }
  | .nextCategory => { app := a.refilter (a.filter.nextCategory a.categories) }
  | .prevCategory => { app := a.refilter (a.filter.prevCategory a.categories) }
  | .moveUp => { app := a.reshow (a.view.cursorUp a.visible.length) }
  | .moveDown => { app := a.reshow (a.view.cursorDown a.visible.length) }
  | .selectFirst => { app := a.reshow (a.view.cursorFirst a.visible.length) }
  | .selectLast => { app := a.reshow (a.view.cursorLast a.visible.length) }
  | .openSelected => let (app, job) := a.openHighlighted now; { app, job }
  | .retrySelection =>
    match a.retry? now with
    | some (app, job) => { app, job }
    | none => { app := a }
  | .scrollUp => { app := a.scroll (-1) }
  | .scrollDown => { app := a.scroll 1 }
  | .pageUp => { app := a.scroll (-(a.view.page : Int)) }
  | .pageDown => { app := a.scroll a.view.page }
  | .dismiss => { app := a.dismiss?.getD a }
  | .toggleHelp => { app := a.reshow a.view.toggleHelp }
  | .loaded report => { app := a.receive now report }

/-- The state shown to a developer. -/
def debug (a : App α) : String :=
  "AppState \x7b catalog: " ++ toString a.catalog.size ++ ", filter: " ++ a.filter.debug ++
    ", visible: " ++ toString a.visible.length ++ ", selection: " ++
    a.selection.debug a.timeout ++ ", redraw: " ++ toString a.redraw ++ " \x7d"

end App

/-! ## Counting -/

/-- What the program has counted.  There is no bound here; fewer than 2 ^ 64 actions are meant, so that
every number fits into 64 bits.  The turns of the spinner alone start over (`View.spin`). -/
structure Metrics where
  /-- The actions performed. -/
  actions : Nat := 0
  /-- The entries opened and the loads tried again. -/
  selections : Nat := 0
  /-- The reports of loads. -/
  reports : Nat := 0
  deriving DecidableEq, Repr

/-- The counts after an action that led from one state to another.  Every selection has its own
generation, so a new generation is a new selection. -/
def Metrics.count {α : Type} (m : Metrics) (before after : App α) (action : Action) : Metrics :=
  { actions := m.actions + 1
    selections := m.selections + (after.selection.generation - before.selection.generation)
    reports := m.reports + match action with
      | .loaded _ => 1
      | _ => 0 }

end Showcase
