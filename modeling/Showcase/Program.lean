import Showcase.App.Screen
import Showcase.Selection.Traffic
import Showcase.Startup

/-!
# The running program

After the start the program takes one event at a time: a key, the report of a load, a signal.  An
event is turned into an action, the action is performed, and the screen is drawn again if the
state asks for it.  A load that an action starts runs before the next event, and its report is the
next event.

`Program` is the state of all that together with what was recorded since the start.
-/

namespace Showcase

open Journal

/-- A program that is running. -/
structure Program where
  /-- The state of the application. -/
  app : App FileLoader
  /-- The disk. -/
  disk : Disk
  /-- The sources loaded so far. -/
  cache : Cache := {}
  /-- What was counted. -/
  metrics : Metrics := {}
  /-- The number of times that the screen was drawn. -/
  frames : Nat := 0
  /-- The size of the screen. -/
  size : Nat × Nat
  /-- What was recorded, last first. -/
  journal : List Record := []
  /-- Whether the program goes on. -/
  goesOn : Bool := true

namespace Program

/-- The signals that end the program. -/
inductive Signal where
  | terminate
  | interrupt
  deriving DecidableEq, Repr

/-- The program with more records. -/
def record (p : Program) (rs : List Record) : Program := { p with journal := rs.reverse ++ p.journal }

/-- Draws the screen if the state asks for it. -/
def draw (p : Program) (times : LoadTimes) : Program :=
  if p.app.redraw then
    let frames := p.frames + 1
    { p with app := { p.app.drawnAt p.size.1 p.size.2 with redraw := false }, frames }.record
      [⟨.trace, .screen, "frame " ++ toString frames ++ " rendered in " ++ times.run⟩]
  else p

/-- Performs an action on the state, and counts and records it; also says which load is to be
started. -/
def dispatch (p : Program) (now : Nat) (times : LoadTimes) (action : Action) :
    Program × Option (Job FileLoader) :=
  let out := p.app.handle now action
  ({ p with
    app := out.app
    metrics := p.metrics.count p.app out.app action
    goesOn := out.goesOn }.record (p.app.records out.app times action), out.job)

/-- Performs an action and draws the screen after it; also says which load is to be started. -/
def perform (p : Program) (now : Nat) (times : LoadTimes) (action : Action) :
    Program × Option (Job FileLoader) :=
  let (p, job) := p.dispatch now times action
  (if p.goesOn then p.draw times else p, job)

/-- What the cache records about a load. -/
def cacheRecords (c : Cache) (slot : String) (result : Except Fault String) : List Record :=
  if c.contains slot then [⟨.debug, .cache, "Source cache hit"⟩]
  else
    match result with
    | .ok _ => []
    | .error fault =>
      [⟨.warn, .cache, "Source load for " ++ slot ++ " failed: " ++ fault.message⟩]

/-- Runs a load to its end. -/
def load (p : Program) (job : Job FileLoader) : Report × Program :=
  let started : Record := ⟨.debug, .loading,
    "Loading source " ++ job.key ++ " (generation " ++ toString job.generation ++ ")"⟩
  if p.app.timeout.nanos = 0 ∧ p.cache.contains job.loader.slot = false then
    let (result, cache) := job.glance p.cache
    ({ generation := job.generation, key := job.key, result }, { p with cache }.record [started])
  else
    let (result, cache) := job.loader.run p.disk p.cache
    ({ generation := job.generation, key := job.key, result },
      { p with cache }.record (started :: cacheRecords p.cache job.loader.slot result))

/-- Performs an action, and the load that it starts. -/
def act (p : Program) (now : Nat) (times : LoadTimes) (action : Action) : Program :=
  match p.perform now times action with
  | (p, none) => p
  | (p, some job) =>
    let (report, p) := p.load job
    ((p.record [⟨.trace, .events, "Task result received"⟩]).perform now times (.loaded report)).1

/-- Takes an event of the terminal. -/
def onEvent (p : Program) (now : Nat) (times : LoadTimes) (e : TerminalEvent) : Program :=
  if !p.goesOn then p
  else
    match p.app.mode.actionOf? e with
    | some action => p.act now times action
    | none => p

/-- Takes a signal. -/
def onSignal (p : Program) (s : Signal) : Program :=
  if !p.goesOn then p
  else
    { p with goesOn := false }.record
      [⟨.info, .program, match s with
        | .terminate => "Received SIGTERM"
        | .interrupt => "Received Ctrl+C"⟩,
       ⟨.info, .program, "Shutdown signal received"⟩]

/-- The program right after the start. -/
def begin (disk : Disk) (size : Nat × Nat) (times : LoadTimes) (app : App FileLoader) : Program :=
  ({ app, disk, size : Program }.record [⟨.info, .program, "Starting event loop"⟩]).draw times

/-- What is recorded when the program ends. -/
def finalRecords (p : Program) : List Record :=
  let m := p.metrics
  let c := p.cache.stats
  ["Final metrics:",
    "  Actions: " ++ toString m.actions ++ ", selections: " ++ toString m.selections ++
      ", load results: " ++ toString m.reports,
    "  Frames: " ++ toString p.frames ++ ", slow frames: 0",
    "  Source cache: " ++ toString c.hits ++ " hits, " ++ toString c.misses ++ " misses, " ++
      toString c.failures ++ " failed loads",
    "Event loop terminated cleanly", "Terminal cleanup complete",
    "Application exited cleanly"].map fun message => ⟨.info, .program, message⟩

/-- Everything that was recorded, when the program ends. -/
def records (p : Program) : List Record := p.journal.reverse ++ p.finalRecords

end Program

end Showcase
