import Showcase.Registry.Discovery
import Showcase.Selection.Basic

/-!
# Traffic between selections and loads

A load that was started runs until it is over or its time is up, and then reports once.  Reports
wait in a queue until someone takes them.

How a run would go if it had all the time in the world is its `Course`.  `Course.ending` says when
it ends and with what, given how long it may take.  The loader is asked before the clock, so a run
that ends at the very limit has not run out of time.

`Traffic` holds the clock, the runs under way and the queue.  The queue is in the order of the
endings, and endings of one moment are in the order of the generations.
-/

namespace Showcase

/-- How a run of a loader would go. -/
inductive Course where
  /-- It ends without waiting. -/
  | atOnce (result : Except Fault String)
  /-- It ends after a while. -/
  | after (delay : Duration) (result : Except Fault String)
  /-- It never ends. -/
  | never

/-- The fault of a load that took too long; it names the limit in whole milliseconds, as far as
they fit into 64 bits. -/
def timeUp (key : String) (limit : Duration) : Except Fault String :=
  .error (.loadTimedOut key (min limit.millis (Duration.wordLimit - 1)))

/-- How long after its start a run ends, and with what. -/
def Course.ending (key : String) (limit : Duration) : Course → Duration × Except Fault String
  | .atOnce result => (⟨0⟩, result)
  | .after delay result =>
    if delay.nanos ≤ limit.nanos then (delay, result) else (limit, timeUp key limit)
  | .never => (limit, timeUp key limit)

/-! ## Loads of files that have no time -/

/-- A load of a file that has no time at all: the text if it is in the cache.  Otherwise the file
would have to be read, and the load is given up before that is over. -/
def Job.glance (job : Job FileLoader) (c : Cache) : Except Fault String × Cache :=
  match c.ask job.loader.slot with
  | (.hit text, c) => (.ok text, c)
  | _ => (timeUp job.key ⟨0⟩, c.giveUp job.loader.slot)

/-- Loads of files that have no time at all, one after the other. -/
def glanceAll (c : Cache) : List (Job FileLoader) → List (Except Fault String) × Cache
  | [] => ([], c)
  | job :: jobs =>
    let (result, c) := job.glance c
    let (results, c) := glanceAll c jobs
    (result :: results, c)

/-! ## Runs -/

/-- A run under way. -/
structure Run where
  /-- When the run ends, in nanoseconds. -/
  due : Nat
  /-- When the run started, in nanoseconds. -/
  started : Nat
  /-- The number of the selection that wants it. -/
  generation : Nat
  /-- The key of the entry. -/
  key : String
  /-- What it will report. -/
  result : Except Fault String

/-- What a run reports. -/
def Run.report (r : Run) : Report :=
  ⟨r.generation, r.key, r.result, ⟨r.due - r.started⟩⟩

/-- The run of a load that is started at a time. -/
def Job.begin (limit : Duration) (now : Nat) (job : Job Course) : Run :=
  let (wait, result) := job.loader.ending job.key limit
  ⟨now + wait.nanos, now, job.generation, job.key, result⟩

/-- The clock, the runs under way and the reports that wait. -/
structure Traffic where
  /-- The time, in nanoseconds. -/
  now : Nat := 0
  /-- The runs under way. -/
  runs : List Run := []
  /-- The reports that wait, the first one first. -/
  queue : List Report := []

namespace Traffic

/-- Whether a run is reported no later than another one. -/
def notAfter (a b : Run) : Bool :=
  decide (a.due < b.due) || (decide (a.due = b.due) && decide (a.generation ≤ b.generation))

/-- Moves the runs that are over by now to the queue. -/
def collect (t : Traffic) : Traffic :=
  let finished := t.runs.filter fun r => decide (r.due ≤ t.now)
  { t with
    runs := t.runs.filter fun r => !decide (r.due ≤ t.now)
    queue := t.queue ++ (finished.mergeSort notAfter).map Run.report }

/-- Starts loads; those that end at once are in the queue right away. -/
def start (t : Traffic) (limit : Duration) (loads : List (Job Course)) : Traffic :=
  { t with runs := t.runs ++ loads.map (Job.begin limit t.now) }.collect

/-- Lets time pass. -/
def advance (t : Traffic) (d : Duration) : Traffic := { t with now := t.now + d.nanos }.collect

/-- Puts reports at the end of the queue. -/
def post (t : Traffic) (reports : List Report) : Traffic := { t with queue := t.queue ++ reports }

/-- Lets loads of files run to their end together; their reports are queued by generation.  With no
time at all only texts that are in the cache are had. -/
def readFiles (t : Traffic) (limit : Duration) (d : Disk) (c : Cache)
    (loads : List (Job FileLoader)) : Traffic × Cache :=
  let (results, c) :=
    if limit.nanos = 0 then glanceAll c loads
    else c.serve (loads.map fun job =>
      { key := job.loader.slot, delay := some 0, result := job.loader.read d })
  let reports := (loads.zip results).map fun (job, result) =>
    ({ generation := job.generation, key := job.key, result } : Report)
  (t.post (reports.mergeSort fun a b => decide (a.generation ≤ b.generation)), c)

/-- Takes a report from the queue: the one of a generation if one is asked for, else the first. -/
def take? (t : Traffic) (wanted : Option Nat) : Option (Report × Traffic) := do
  let index ← match wanted with
    | none => some 0
    | some generation => t.queue.findIdx? (·.generation == generation)
  let report ← t.queue[index]?
  return (report, { t with queue := t.queue.eraseIdx index })

end Traffic

end Showcase
