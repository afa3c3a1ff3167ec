import Showcase.Fault

/-!
# The source cache

The cache keeps the text of every source that was loaded, for good.  A key has at most one loader
at work: who asks for a key while its loader works waits for the same result.  Only successes are
kept, so after a failure the next one to ask starts a loader again.  A failure reaches everyone
through `Fault.shared`.

A request has two moments, and between them other requests may come and go: `Cache.ask` says
whether the text is there, and `Cache.settle` brings the result of a loader.  `Cache.fetch` is both
at once, for a loader that does not wait.
-/

namespace Showcase

/-- What the cache has counted.  There is no bound here; fewer than 2 ^ 64 requests are meant, so that
every number fits into 64 bits. -/
structure CacheStats where
  /-- Requests that found their text. -/
  hits : Nat := 0
  /-- Requests that did not. -/
  misses : Nat := 0
  /-- Loaders that finished. -/
  loads : Nat := 0
  /-- Loaders that finished with a fault. -/
  failures : Nat := 0
  deriving DecidableEq, Repr

/-- The texts loaded so far, the keys whose loaders are at work, and the counters. -/
structure Cache where
  /-- The loaded texts by key. -/
  texts : List (String × String) := []
  /-- The keys whose loaders are at work. -/
  working : List String := []
  /-- The counters. -/
  stats : CacheStats := {}

/-- What a request is told. -/
inductive Cache.Reply where
  /-- The text is there. -/
  | hit (text : String)
  /-- The one who asks must run its loader. -/
  | lead
  /-- Another loader of the key is at work. -/
  | wait
  deriving DecidableEq, Repr

namespace Cache

/-- The text of a key, if it was loaded. -/
def text? (c : Cache) (key : String) : Option String := c.texts.lookup key

/-- Whether the text of a key was loaded. -/
def contains (c : Cache) (key : String) : Bool := (c.text? key).isSome

/-- A request for a key. -/
def ask (c : Cache) (key : String) : Reply × Cache :=
  match c.text? key with
  | some text => (.hit text, { c with stats.hits := c.stats.hits + 1 })
  | none =>
    let c := { c with stats.misses := c.stats.misses + 1 }
    if c.working.contains key then (.wait, c)
    else (.lead, { c with working := key :: c.working })

/-- The result that everyone who waits for a loader gets. -/
def handOut (result : Except Fault String) : Except Fault String :=
  match result with
  | .ok text => .ok text
  | .error fault => .error fault.shared

/-- The cache after the loader of a key finished. -/
def settle (c : Cache) (key : String) (result : Except Fault String) : Cache :=
  let c := { c with working := c.working.erase key, stats.loads := c.stats.loads + 1 }
  match result with
  | .ok text => { c with texts := (key, text) :: c.texts }
  | .error _ => { c with stats.failures := c.stats.failures + 1 }

/-- The cache after a request for a key that is not there was given up before its loader finished:
the request has missed, and nothing else is known of it. -/
def giveUp (c : Cache) (key : String) : Cache :=
  let asked := (c.ask key).2
  { asked with working := c.working }

/-- A request whose loader, if it has to run, finishes at once with a result. -/
def fetch (c : Cache) (key : String) (result : Except Fault String) :
    Except Fault String × Cache :=
  match c.ask key with
  | (.hit text, c) => (.ok text, c)
  | (_, c) => (handOut result, c.settle key result)

/-! ## Requests under way together -/

/-- A request and how its loader would go. -/
structure Call where
  /-- The key asked for. -/
  key : String
  /-- How long the loader waits before it finishes; without a delay it finishes at once. -/
  delay : Option Nat
  /-- What the loader finds. -/
  result : Except Fault String

/-- What is known of a request when all have asked. -/
inductive Answer where
  /-- It has its result. -/
  | now (result : Except Fault String)
  /-- It waits for a loader of its key. -/
  | later (call : Call)

/-- Asks for one call after the other.  A loader that finishes at once is through before the next
request comes; the other loaders that have to run are returned. -/
def askAll (c : Cache) : List Call → List Answer × List Call × Cache
  | [] => ([], [], c)
  | call :: calls =>
    match c.ask call.key, call.delay with
    | (.hit text, c), _ =>
      let (answers, leaders, c) := c.askAll calls
      (.now (.ok text) :: answers, leaders, c)
    | (.wait, c), _ =>
      let (answers, leaders, c) := c.askAll calls
      (.later call :: answers, leaders, c)
    | (.lead, c), none =>
      let (answers, leaders, c) := (c.settle call.key call.result).askAll calls
      (.now (handOut call.result) :: answers, leaders, c)
    | (.lead, c), some _ =>
      let (answers, leaders, c) := c.askAll calls
      (.later call :: answers, call :: leaders, c)

/-- The result of a request when all loaders are finished. -/
def Answer.result (leaders : List Call) : Answer → Except Fault String
  | .now result => result
  | .later call => handOut ((leaders.find? (·.key == call.key)).getD call).result

/-- Serves requests that come one after the other before time passes; then the loaders that wait
finish in the order of their delays.  So of several requests for one key only the first runs its
loader. -/
def serve (c : Cache) (calls : List Call) : List (Except Fault String) × Cache :=
  let (answers, leaders, c) := c.askAll calls
  let due := leaders.mergeSort fun a b => decide (a.delay.getD 0 ≤ b.delay.getD 0)
  (answers.map (Answer.result leaders),
    due.foldl (fun c call => c.settle call.key call.result) c)

end Cache

end Showcase
