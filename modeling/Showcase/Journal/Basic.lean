/-!
# Records of a journal

The program keeps a journal of what it does.  A record has a level, the part of the program that it
comes from, and a message.  Some parts make all their records during a span of work.  Whether a
record is kept is decided by directives, in the module on them; here is only what can be recorded.
-/

namespace Showcase.Journal

/-- How important a record is. -/
inductive Level where
  | error
  | warn
  | info
  | debug
  | trace
  deriving DecidableEq, Repr

/-- The place of a level when levels are counted from the most important one. -/
def Level.rank : Level → Nat
  | error => 1
  | warn => 2
  | info => 3
  | debug => 4
  | trace => 5

/-- The word for a level. -/
def Level.name : Level → String
  | error => "ERROR"
  | warn => "WARN"
  | info => "INFO"
  | debug => "DEBUG"
  | trace => "TRACE"

/-- The part of the program that a record comes from. -/
inductive Area where
  | program
  | manifest
  | discovery
  | search
  | registry
  | cache
  | loading
  | selection
  | state
  | actions
  | events
  | screen
  deriving DecidableEq, Repr

/-- The name under which a part of the program is known in the journal. -/
def Area.name : Area → String
  | program => "samples"
  | manifest => "browser_core::catalog::manifest"
  | discovery | search => "browser_core::registry::discovery"
  | registry => "browser_core::registry::loader"
  | cache => "browser_core::cache::source_cache"
  | loading => "browser_core::tasks::source_task"
  | selection => "browser_core::controller::selection"
  | state => "browser_core::model::app_state"
  | actions => "browser_core::controller::action_dispatcher"
  | events => "browser_core::controller::event_loop"
  | screen => "browser_core::view::ui"

/-- A stretch of work with a name, during which records can be made. -/
structure Span where
  /-- Its name. -/
  name : String
  /-- The names of what is known about it. -/
  fields : List String := []

/-- The span during which a part of the program makes its records, if it has one. -/
def Area.span? : Area → Option Span
  | search => some ⟨"discover_assets", ["pattern", "dir"]⟩
  | cache => some ⟨"get_or_load", ["key", "cache_key"]⟩
  | screen => some ⟨"render", []⟩
  | _ => none

/-- Something that happened. -/
structure Record where
  /-- How important it is. -/
  level : Level
  /-- Where it comes from. -/
  area : Area
  /-- What happened. -/
  message : String
  deriving DecidableEq, Repr

/-- A number in six digits or more. -/
def sixDigits (n : Nat) : String :=
  let digits := toString n
  String.ofList (List.replicate (6 - digits.length) '0') ++ digits

/-- A record as a line of the journal, under its number. -/
def Record.line (r : Record) (number : Nat) : String :=
  let name := r.level.name
  sixDigits number ++ " " ++ name ++ String.ofList (List.replicate (5 - name.length) ' ') ++ " [" ++
    r.area.name ++ "] " ++ r.message

/-- A day of the calendar, written as year, month and day. -/
def dayText (year : Int) (month day : Nat) : String :=
  let two (n : Nat) : String := if n < 10 then "0" ++ toString n else toString n
  toString year ++ "-" ++ two month ++ "-" ++ two day

/-- The day that lies so many days after the first one of 1970.  Years are counted from March, so
that the day that only some years have is the last one. -/
def dayAfter (days : Int) : String :=
  let shifted := days + 719468
  let era := shifted.fdiv 146097
  let inEra := (shifted - era * 146097).toNat
  let yearOfEra := (inEra - inEra / 1460 + inEra / 36524 - inEra / 146096) / 365
  let inYear := inEra - (365 * yearOfEra + yearOfEra / 4 - yearOfEra / 100)
  let fromMarch := (5 * inYear + 2) / 153
  let day := inYear - (153 * fromMarch + 2) / 5 + 1
  let month := if fromMarch < 10 then fromMarch + 3 else fromMarch - 9
  let year := (yearOfEra : Int) + era * 400
  dayText (if month ≤ 2 then year + 1 else year) month day

end Showcase.Journal
