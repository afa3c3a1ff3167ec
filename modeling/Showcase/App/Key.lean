import Showcase.Selection.Basic
import Showcase.Text.Quoted

/-!
# Keys and actions

A key means different things in different modes.  `Mode.action?` is the table: in a mode it turns
a key into an action, or into nothing.  Control and `c` together quit in every mode.
-/

namespace Showcase

/-- How keys are read. -/
inductive Mode where
  /-- Keys move in the list. -/
  | browse
  /-- Keys edit the search. -/
  | search
  /-- Keys scroll the source. -/
  | source
  /-- The help is open. -/
  | help
  deriving DecidableEq, Repr

/-- The name of a mode. -/
def Mode.name : Mode → String
  | browse => "Browse"
  | search => "Search"
  | source => "Source"
  | help => "Help"

/-- The mode with a name. -/
def Mode.ofName? (name : String) : Option Mode :=
  [browse, search, source, help].find? (·.name == name)

/-- A key of the keyboard. -/
inductive Key where
  | char (c : Char)
  | esc
  | enter
  | backspace
  | delete
  | insert
  | up
  | down
  | left
  | right
  | tab
  | backTab
  | home
  | end
  | pageUp
  | pageDown
  | function (n : Nat)
  | null
  deriving DecidableEq, Repr

/-- The keys that do not stand for a character, by name. -/
def Key.named : List (String × Key) := [
  ("Esc", .esc), ("Enter", .enter), ("Backspace", .backspace), ("Delete", .delete),
  ("Insert", .insert), ("Up", .up), ("Down", .down), ("Left", .left), ("Right", .right),
  ("Tab", .tab), ("BackTab", .backTab), ("Home", .home), ("End", .end), ("PageUp", .pageUp),
  ("PageDown", .pageDown), ("F1", .function 1)]

/-- The key with a name; a single character is its own key. -/
def Key.ofName (s : String) : Key :=
  match s.toList with
  | [c] => .char c
  | _ => (Key.named.lookup s).getD .null

/-- What a terminal reports. -/
inductive TerminalEvent where
  /-- A key went down, with or without control, or repeats. -/
  | press (key : Key) (control : Bool)
  /-- A key went up. -/
  | release (key : Key) (control : Bool)
  /-- The screen has a new size. -/
  | resize (width height : Nat)
  /-- Anything else. -/
  | other
  deriving DecidableEq, Repr

/-- What the program can be asked to do. -/
inductive Action where
  | quit
  | resize (width height : Nat)
  | tick
  | focusSearch
  | blurSearch
  | queryInput (c : Char)
  | queryBackspace
  | clearQuery
  | nextCategory
  | prevCategory
  | moveUp
  | moveDown
  | selectFirst
  | selectLast
  | openSelected
  | retrySelection
  | scrollUp
  | scrollDown
  | pageUp
  | pageDown
  | dismiss
  | toggleHelp
  | loaded (report : Report)

/-- The action of a key in a mode. -/
def Mode.action? (mode : Mode) (key : Key) (control : Bool) : Option Action :=
  if key = .char 'c' ∧ control = true then some .quit
  else match mode with
    | .search =>
      match key with
      | .esc | .enter => some .blurSearch
      | .backspace => some .queryBackspace
      | .up => some .moveUp
      | .down => some .moveDown
      | .tab => some .nextCategory
      | .backTab => some .prevCategory
      | .char c => if c = 'u' ∧ control = true then some .clearQuery else some (.queryInput c)
      | _ => none
    | .source =>
      match key with
      | .esc | .char 'q' => some .dismiss
      | .up | .char 'k' => some .scrollUp
      | .down | .char 'j' => some .scrollDown
      | .pageUp => some .pageUp
      | .pageDown | .char ' ' => some .pageDown
      | _ => none
    | .help =>
      match key with
      | .esc | .char '?' | .char 'q' => some .toggleHelp
      | _ => none
    | .browse =>
      match key with
      | .char 'q' => some .quit
      | .char '/' => some .focusSearch
      | .char '?' => some .toggleHelp
      | .char 'r' => some .retrySelection
      | .up | .char 'k' => some .moveUp
      | .down | .char 'j' => some .moveDown
      | .home | .char 'g' => some .selectFirst
      | .end | .char 'G' => some .selectLast
      | .tab | .right => some .nextCategory
      | .backTab | .left => some .prevCategory
      | .enter => some .openSelected
      | .esc => some .dismiss
      | _ => none

/-- The action of what a terminal reports, in a mode. -/
def Mode.actionOf? (mode : Mode) : TerminalEvent → Option Action
  | .press key control => mode.action? key control
  | .release _ _ => none
  | .resize width height => some (.resize width height)
  | .other => none

/-- The name of an action. -/
def Action.name : Action → String
  | quit => "Quit"
  | resize _ _ => "Resize"
  | tick => "Tick"
  | focusSearch => "FocusSearch"
  | blurSearch => "BlurSearch"
  | queryInput _ => "QueryInput"
  | queryBackspace => "QueryBackspace"
  | clearQuery => "ClearQuery"
  | nextCategory => "NextCategory"
  | prevCategory => "PrevCategory"
  | moveUp => "MoveSelectionUp"
  | moveDown => "MoveSelectionDown"
  | selectFirst => "SelectFirst"
  | selectLast => "SelectLast"
  | openSelected => "OpenSelected"
  | retrySelection => "RetrySelection"
  | scrollUp => "ScrollUp"
  | scrollDown => "ScrollDown"
  | pageUp => "PageUp"
  | pageDown => "PageDown"
  | dismiss => "Dismiss"
  | toggleHelp => "ToggleHelp"
  | loaded _ => "TaskResult"

/-- The actions that carry nothing. -/
def Action.plain : List Action := [
  quit, tick, focusSearch, blurSearch, queryBackspace, clearQuery, nextCategory, prevCategory,
  moveUp, moveDown, selectFirst, selectLast, openSelected, retrySelection, scrollUp, scrollDown,
  pageUp, pageDown, dismiss, toggleHelp]

/-- The action with a name that carries nothing. -/
def Action.ofName? (name : String) : Option Action := Action.plain.find? (·.name == name)

/-- A character between single quotes. -/
def quotedChar (c : Char) : String :=
  let inner := if c = '\'' then ['\\', '\''] else if c = '"' then ['"'] else Text.quoteChar c
  String.ofList ('\'' :: inner ++ ['\''])

/-- An action shown to a developer: its name and what it carries. -/
def Action.debug : Action → String
  | resize width height => "Resize(" ++ toString width ++ ", " ++ toString height ++ ")"
  | queryInput c => "QueryInput(" ++ quotedChar c ++ ")"
  | action => action.name

end Showcase
