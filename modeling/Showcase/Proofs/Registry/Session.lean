import Showcase.Proofs.Registry.Slots

/-!
# Loading samples while files change

A `Session` is a disk and the cache through which its samples are read.  In it keys are loaded, and
files are written and removed at any places.

Every run keeps three things (`Faithful`): the directories stay, no loader is left at work, and the
cache has for each key the text of the first load of that key that succeeded.  So a load answers
from the cache or reads the file of its own key (`load_own`).  Two sessions that agree on
the file of one key and on its text in the cache answer alike for that key (`Agree`), whatever else
happens in one of them.
-/

namespace Showcase

/-- A disk and the cache through which its files are read. -/
structure Session where
  /-- The disk. -/
  disk : Disk
  /-- The cache. -/
  cache : Cache := {}

namespace Session

/-- Something that happens in a session. -/
inductive Event where
  /-- A key is loaded. -/
  | load (key : String)
  /-- A file is written. -/
  | write (place : Disk.Place) (text : Option String)
  /-- A file is removed. -/
  | remove (place : Disk.Place)

/-- The answers to loads, each with its key; a key without a loader has none. -/
abbrev Answers := List (String × Option (Except Fault String))

/-- Loads a key, and tells the answer. -/
def load (r : Registry FileLoader) (w : Session) (key : String) :
    Option (Except Fault String) × Session :=
  match r.resolve? key with
  | none => (none, w)
  | some loader =>
    let (result, cache) := loader.run w.disk w.cache
    (some result, { w with cache })

/-- The session after something has happened. -/
def step (r : Registry FileLoader) (w : Session) : Event → Session
  | .load key => (w.load r key).2
  | .write place text => { w with disk := w.disk.writeFile place text }
  | .remove place => { w with disk := w.disk.removeFile place }

/-- The session after a list of events. -/
def run (r : Registry FileLoader) (w : Session) (events : List Event) : Session :=
  events.foldl (step r) w

/-- The answer to an event, if it is a load. -/
def answer (r : Registry FileLoader) (w : Session) : Event → Answers
  | .load key => [(key, (w.load r key).1)]
  | .write _ _ | .remove _ => []

/-- The answers during a list of events. -/
def answers (r : Registry FileLoader) (w : Session) : List Event → Answers
  | [] => []
  | event :: events => w.answer r event ++ (w.step r event).answers r events

/-- The text of the first load of a key that succeeded. -/
def firstText? (key : String) (past : Answers) : Option String :=
  past.findSome? fun (k, answer) => if k = key then answer.bind Except.toOption else none

/-- Whether an event is a load of a key or changes the file at a place. -/
def concerns (key : String) (place : Disk.Place) : Event → Bool
  | .load k => k == key
  | .write p _ | .remove p => p == place

/-! ## One load -/

section

variable {r : Registry FileLoader} {w : Session} {key : String}

theorem load_absent (absent : r.resolve? key = none) : w.load r key = (none, w) := by
  simp only [load, absent]

theorem load_eq_none_iff : (w.load r key).1 = none ↔ r.resolve? key = none := by
  cases known : r.resolve? key <;> simp [load, known]

variable {loader : FileLoader} (known : r.resolve? key = some loader)
include known

/-- A text that the cache has is the answer, and no file is read. -/
theorem load_cached {text : String} (found : w.cache.text? loader.slot = some text) :
    w.load r key =
      (some (.ok text), { w with cache.stats.hits := w.cache.stats.hits + 1 }) := by
  simp only [load, known, FileLoader.run, Cache.fetch, Cache.ask, found]

variable (idle : w.cache.working = []) (missing : w.cache.text? loader.slot = none)
include idle missing

/-- A text that is read now is the answer, and the cache keeps it. -/
theorem load_read {text : String} (read : w.disk.readText loader.path = .ok text) :
    ∃ stats, w.load r key = (some (.ok text),
      { w with
        cache := { w.cache with texts := (loader.slot, text) :: w.cache.texts, stats } }) := by
  refine ⟨{ w.cache.stats with
    misses := w.cache.stats.misses + 1, loads := w.cache.stats.loads + 1 }, ?_⟩
  simp [load, known, FileLoader.run, FileLoader.read, read, Cache.fetch, Cache.ask, missing, idle,
    Cache.settle, Cache.handOut]

/-- A failure to read is the answer, and only the counters change. -/
theorem load_failed {failure : Disk.Failure}
    (read : w.disk.readText loader.path = .error failure) :
    ∃ stats, w.load r key =
      (some (.error (.disk failure.shared)), { w with cache := { w.cache with stats } }) := by
  refine ⟨{ w.cache.stats with
    misses := w.cache.stats.misses + 1, loads := w.cache.stats.loads + 1,
    failures := w.cache.stats.failures + 1 }, ?_⟩
  simp [load, known, FileLoader.run, FileLoader.read, read, Cache.fetch, Cache.ask, missing, idle,
    Cache.settle, Cache.handOut, Fault.shared]

end

/-- A load finds no loader, or its text in the cache, or reads its file with or without success. -/
theorem load_cases (r : Registry FileLoader) {w : Session} (idle : w.cache.working = [])
    (key : String) :
    (r.resolve? key = none ∧ w.load r key = (none, w)) ∨
    ∃ loader, r.resolve? key = some loader ∧
      ((∃ text, w.cache.text? loader.slot = some text ∧ w.load r key =
        (some (.ok text), { w with cache.stats.hits := w.cache.stats.hits + 1 })) ∨
      (∃ text stats, w.cache.text? loader.slot = none ∧ w.disk.readText loader.path = .ok text ∧
        w.load r key = (some (.ok text),
          { w with
            cache := { w.cache with texts := (loader.slot, text) :: w.cache.texts, stats } })) ∨
      (∃ failure stats, w.cache.text? loader.slot = none ∧
        w.disk.readText loader.path = .error failure ∧
        w.load r key = (some (.error (.disk failure.shared)),
          { w with cache := { w.cache with stats } }))) := by
  cases known : r.resolve? key with
  | none => exact Or.inl ⟨rfl, load_absent known⟩
  | some loader =>
      refine Or.inr ⟨loader, rfl, ?_⟩
      cases found : w.cache.text? loader.slot with
      | some text => exact Or.inl ⟨text, rfl, load_cached known found⟩
      | none =>
          refine Or.inr ?_
          cases read : w.disk.readText loader.path with
          | ok text =>
              obtain ⟨stats, loaded⟩ := load_read known idle found read
              exact Or.inl ⟨text, stats, rfl, rfl, loaded⟩
          | error failure =>
              obtain ⟨stats, loaded⟩ := load_failed known idle found read
              exact Or.inr ⟨failure, stats, rfl, rfl, loaded⟩

theorem disk_load (r : Registry FileLoader) {w : Session} (idle : w.cache.working = [])
    (key : String) : (w.load r key).2.disk = w.disk ∧ (w.load r key).2.cache.working = [] := by
  rcases load_cases r idle key with ⟨_, loaded⟩ | ⟨_, _, ⟨_, _, loaded⟩ | ⟨_, _, _, _, loaded⟩ |
    ⟨_, _, _, _, loaded⟩⟩ <;> rw [loaded] <;> exact ⟨rfl, idle⟩

/-- A load that succeeds leaves its text under its own key, unless one is there, and no load
changes the text of another key. -/
theorem text?_load {r : Registry FileLoader} (slotted : r.Slotted) {w : Session}
    (idle : w.cache.working = []) (key other : String) :
    (w.load r key).2.cache.text? (r.place other) = (w.cache.text? (r.place other)).or
      (if key = other then (w.load r key).1.bind Except.toOption else none) := by
  rcases load_cases r idle key with ⟨_, loaded⟩ |
    ⟨loader, known, ⟨text, found, loaded⟩ | ⟨text, stats, missing, _, loaded⟩ |
      ⟨failure, stats, _, _, loaded⟩⟩
  · rw [loaded]
    simp
  · rw [loaded]
    by_cases same : key = other
    · subst same
      rw [slotted known] at found
      change w.cache.text? (r.place key) = _
      rw [found]
      rfl
    · rw [if_neg same, Option.or_none]
      rfl
  · rw [loaded]
    rw [slotted known] at missing ⊢
    have looked : Cache.text? { w.cache with texts := (r.place key, text) :: w.cache.texts, stats }
        (r.place other) = if r.place other = r.place key then some text
          else w.cache.text? (r.place other) := lookup_cons_eq_ite ..
    rw [looked]
    by_cases same : key = other
    · subst same
      rw [if_pos rfl, if_pos rfl, missing]
      rfl
    · have apart : r.place other ≠ r.place key := fun equal =>
        same (Registry.virtualPath_injective r.base equal).symm
      rw [if_neg apart, if_neg same, Option.or_none]
  · rw [loaded]
    change w.cache.text? (r.place other) = _
    simp [Except.toOption]

/-! ## What every run keeps -/

/-- What every run keeps, with the answers so far. -/
structure Faithful (r : Registry FileLoader) (before : Disk) (w : Session) (past : Answers) :
    Prop where
  /-- The directories stay and no links appear. -/
  kept : before.Kept w.disk
  /-- No loader is left at work. -/
  idle : w.cache.working = []
  /-- The cache has the first text of every key. -/
  texts : ∀ key, w.cache.text? (r.place key) = firstText? key past

theorem faithful_start (r : Registry FileLoader) {before : Disk} (linkless : before.Linkless) :
    Faithful r before { disk := before } [] where
  kept := linkless.kept
  idle := rfl
  texts := fun _ => rfl

section

variable {r : Registry FileLoader} (slotted : r.Slotted) {before : Disk} {w : Session}
  {past : Answers} (faithful : Faithful r before w past)
include slotted faithful

theorem Faithful.step (event : Event) :
    Faithful r before (w.step r event) (past ++ w.answer r event) := by
  cases event with
  | load key =>
      obtain ⟨disk, idle⟩ := disk_load r faithful.idle key
      refine ⟨disk.symm ▸ faithful.kept, idle, fun other => ?_⟩
      change (w.load r key).2.cache.text? (r.place other) =
        firstText? other (past ++ [(key, (w.load r key).1)])
      rw [text?_load slotted faithful.idle, faithful.texts]
      simp [firstText?, List.findSome?_append]
  | write place text =>
      refine ⟨faithful.kept.writeFile place text, faithful.idle, fun other => ?_⟩
      rw [answer, List.append_nil]
      exact faithful.texts other
  | remove place =>
      refine ⟨faithful.kept.removeFile place, faithful.idle, fun other => ?_⟩
      rw [answer, List.append_nil]
      exact faithful.texts other

theorem Faithful.run (events : List Event) :
    Faithful r before (w.run r events) (past ++ w.answers r events) := by
  induction events generalizing w past with
  | nil =>
      rw [answers, List.append_nil]
      exact faithful
  | cons event events induction =>
      rw [answers, ← List.append_assoc]
      exact induction (faithful.step slotted event)

end

/-! ## What a load depends on -/

/-- The answer to a load of a file, by the text that the cache has and by what is read now. -/
def given (cached : Option String) (read : Except Disk.Failure String) : Except Fault String :=
  match cached, read with
  | some text, _ => .ok text
  | none, .ok text => .ok text
  | none, .error failure => .error (.disk failure.shared)

/-- A load answers from the cache, or with what stands at the place of its own file now. -/
theorem load_own {r : Registry FileLoader} {before : Disk} (linkless : before.Linkless)
    {key path : String} {place : Disk.Place} {item : Disk.Item}
    (known : r.resolve? key = some ⟨r.place key, path⟩)
    (led : before.locate path true = .ok (place, item)) {w : Session}
    (kept : before.Kept w.disk) (idle : w.cache.working = []) :
    (w.load r key).1 =
      some (given (w.cache.text? (r.place key)) (w.disk.textAt place)) := by
  have reads := kept.readText linkless led
  cases found : w.cache.text? (r.place key) with
  | some text =>
      rw [load_cached known found]
      rfl
  | none =>
      cases read : w.disk.textAt place with
      | ok text =>
          obtain ⟨_, loaded⟩ := load_read known idle found (reads.trans read)
          rw [loaded]
          rfl
      | error failure =>
          obtain ⟨_, loaded⟩ := load_failed known idle found (reads.trans read)
          rw [loaded]
          rfl

/-- Two sessions agree on a key and the place of its file. -/
structure Agree (r : Registry FileLoader) (before : Disk) (key : String) (place : Disk.Place)
    (w v : Session) : Prop where
  /-- Both have the directories of the start. -/
  kept : before.Kept w.disk ∧ before.Kept v.disk
  /-- In both no loader is at work. -/
  idle : w.cache.working = [] ∧ v.cache.working = []
  /-- Both have the same text in the cache, if any. -/
  text : w.cache.text? (r.place key) = v.cache.text? (r.place key)
  /-- Both have the same file on the disk, if any. -/
  shape : w.disk.shape? place = v.disk.shape? place

section

variable {r : Registry FileLoader} (slotted : r.Slotted) {before : Disk} {key : String}
  {place : Disk.Place} {w v : Session} (agree : Agree r before key place w v)
include slotted agree

/-- What concerns other keys and files is not noticed. -/
theorem Agree.step_left {event : Event} (other : concerns key place event = false) :
    Agree r before key place (w.step r event) v := by
  cases event with
  | load k =>
      have different : k ≠ key := by simpa [concerns] using other
      obtain ⟨disk, idle⟩ := disk_load r agree.idle.1 k
      refine ⟨⟨disk.symm ▸ agree.kept.1, agree.kept.2⟩, ⟨idle, agree.idle.2⟩, ?_,
        disk.symm ▸ agree.shape⟩
      change (w.load r k).2.cache.text? (r.place key) = _
      rw [text?_load slotted agree.idle.1, if_neg different, Option.or_none]
      exact agree.text
  | write p text =>
      have different : place ≠ p := Ne.symm (by simpa [concerns] using other)
      refine ⟨⟨agree.kept.1.writeFile p text, agree.kept.2⟩, agree.idle, agree.text, ?_⟩
      change (w.disk.writeFile p text).shape? place = _
      rw [Disk.shape?_writeFile, if_neg fun here => different here.1]
      exact agree.shape
  | remove p =>
      have different : place ≠ p := Ne.symm (by simpa [concerns] using other)
      refine ⟨⟨agree.kept.1.removeFile p, agree.kept.2⟩, agree.idle, agree.text, ?_⟩
      change (w.disk.removeFile p).shape? place = _
      rw [Disk.shape?_removeFile, if_neg fun here => different here.1]
      exact agree.shape

variable (linkless : before.Linkless) {path : String} {item : Disk.Item}
  (known : r.resolve? key = some ⟨r.place key, path⟩)
  (led : before.locate path true = .ok (place, item))
include linkless known led

omit slotted in
theorem Agree.load : (w.load r key).1 = (v.load r key).1 := by
  rw [load_own linkless known led agree.kept.1 agree.idle.1,
    load_own linkless known led agree.kept.2 agree.idle.2, agree.text, Disk.textAt, agree.shape]
  rfl

/-- What concerns the key is answered alike, and the sessions still agree. -/
theorem Agree.step_both {event : Event} (own : concerns key place event = true) :
    Agree r before key place (w.step r event) (v.step r event) ∧
      w.answer r event = v.answer r event := by
  cases event with
  | load k =>
      obtain rfl : k = key := by simpa [concerns] using own
      have alike := agree.load linkless known led
      obtain ⟨disk, idle⟩ := disk_load r agree.idle.1 k
      obtain ⟨disk', idle'⟩ := disk_load r agree.idle.2 k
      refine ⟨⟨⟨disk.symm ▸ agree.kept.1, disk'.symm ▸ agree.kept.2⟩, ⟨idle, idle'⟩, ?_, ?_⟩, ?_⟩
      · change (w.load r k).2.cache.text? (r.place k) = (v.load r k).2.cache.text? (r.place k)
        rw [text?_load slotted agree.idle.1, text?_load slotted agree.idle.2, agree.text, alike]
      · change (w.load r k).2.disk.shape? place = (v.load r k).2.disk.shape? place
        rw [disk, disk']
        exact agree.shape
      · simp only [answer, alike]
  | write p text =>
      obtain rfl : p = place := by simpa [concerns] using own
      refine ⟨⟨⟨agree.kept.1.writeFile p text, agree.kept.2.writeFile p text⟩, agree.idle,
        agree.text, ?_⟩, rfl⟩
      -- in both sessions the same directories are there to write in
      have takes : w.disk.takesFile p = v.disk.takesFile p := by
        rw [Bool.eq_iff_iff, Disk.takesFile_iff, Disk.takesFile_iff, agree.kept.1.dirs,
          agree.kept.2.dirs, agree.shape]
      change (w.disk.writeFile p text).shape? p = (v.disk.writeFile p text).shape? p
      rw [Disk.shape?_writeFile, Disk.shape?_writeFile, takes, agree.shape]
  | remove p =>
      obtain rfl : p = place := by simpa [concerns] using own
      refine ⟨⟨⟨agree.kept.1.removeFile p, agree.kept.2.removeFile p⟩, agree.idle,
        agree.text, ?_⟩, rfl⟩
      have has : w.disk.hasFile p = v.disk.hasFile p := by
        rw [Bool.eq_iff_iff, Disk.hasFile_iff, Disk.hasFile_iff, agree.shape]
      change (w.disk.removeFile p).shape? p = (v.disk.removeFile p).shape? p
      rw [Disk.shape?_removeFile, Disk.shape?_removeFile, has, agree.shape]

/-- The answers for a key are the same when all that does not concern it is left out. -/
theorem Agree.answers_erased (events : List Event) :
    (w.answers r events).filter (·.1 == key) =
      v.answers r (events.filter (concerns key place)) := by
  induction events generalizing w v with
  | nil => rfl
  | cons event events induction =>
      rw [answers, List.filter_append]
      cases own : concerns key place event with
      | true =>
          obtain ⟨stepped, alike⟩ := agree.step_both slotted linkless known led own
          have listed : (w.answer r event).filter (·.1 == key) = w.answer r event := by
            cases event with
            | load k => simpa [answer, concerns] using own
            | write p text => rfl
            | remove p => rfl
          rw [List.filter_cons_of_pos own, answers, listed, alike, induction stepped]
      | false =>
          have silent : (w.answer r event).filter (·.1 == key) = [] := by
            cases event with
            | load k => simpa [answer, concerns] using own
            | write p text => rfl
            | remove p => rfl
          rw [List.filter_cons_of_neg (by simp [own]), silent, List.nil_append,
            induction (agree.step_left slotted own)]

end

/-! ## Counters are not noticed -/

/-- Two sessions differ in what the cache has counted at most. -/
structure Alike (w v : Session) : Prop where
  /-- The disk is the same. -/
  disk : w.disk = v.disk
  /-- The texts are the same. -/
  texts : w.cache.texts = v.cache.texts
  /-- In both no loader is at work. -/
  idle : w.cache.working = [] ∧ v.cache.working = []

theorem Alike.load {w v : Session} (alike : Alike w v) (r : Registry FileLoader) (key : String) :
    (w.load r key).1 = (v.load r key).1 ∧ Alike (w.load r key).2 (v.load r key).2 := by
  have text : ∀ slot, v.cache.text? slot = w.cache.text? slot := by
    intro slot
    rw [Cache.text?, Cache.text?, alike.texts]
  rcases load_cases r alike.idle.1 key with ⟨absent, loaded⟩ |
    ⟨loader, known, ⟨text', found, loaded⟩ | ⟨text', stats, missing, read, loaded⟩ |
      ⟨failure, stats, missing, read, loaded⟩⟩
  · rw [loaded, load_absent absent]
    exact ⟨rfl, alike⟩
  · rw [loaded, load_cached known ((text _).trans found)]
    exact ⟨rfl, alike.disk, alike.texts, alike.idle⟩
  · obtain ⟨stats', loaded'⟩ :=
      load_read known alike.idle.2 ((text _).trans missing) (alike.disk ▸ read)
    rw [loaded, loaded']
    exact ⟨rfl, alike.disk, congrArg ((loader.slot, text') :: ·) alike.texts, alike.idle⟩
  · obtain ⟨stats', loaded'⟩ :=
      load_failed known alike.idle.2 ((text _).trans missing) (alike.disk ▸ read)
    rw [loaded, loaded']
    exact ⟨rfl, alike.disk, alike.texts, alike.idle⟩

theorem Alike.answers {w v : Session} (alike : Alike w v) (r : Registry FileLoader)
    (events : List Event) : w.answers r events = v.answers r events := by
  induction events generalizing w v with
  | nil => rfl
  | cons event events induction =>
      have stepped : w.answer r event = v.answer r event ∧
          Alike (w.step r event) (v.step r event) := by
        cases event with
        | load key =>
            obtain ⟨same, after⟩ := alike.load r key
            exact ⟨by rw [answer, answer, same], after⟩
        | write place text =>
            exact ⟨rfl, by rw [step, step, alike.disk], alike.texts, alike.idle⟩
        | remove place =>
            exact ⟨rfl, by rw [step, step, alike.disk], alike.texts, alike.idle⟩
      rw [Session.answers, Session.answers, stepped.1, induction stepped.2]

/-! ## Every sample shows its own file -/

/-- Take a plain disk, a directory of it, a valid pattern and any base.  The samples are found and
registered; they are the matching files in the directory, and the names in a key lead from the
directory to its file, so different keys are different files.  Then, after any loads, writes and
removals: a key has no answer exactly if no sample has it.  If a load of the key succeeded before,
the answer is the first text, whatever is on the disk now.  If not, the answer is what is read at
the place of its file now; a failure has the words of the reader, changes the counters only, and
is not noticed by any later load.  All answers for a key are those of the session in which only the
loads of that key and the changes of its own file happen. -/
theorem sample_shows_its_own_file {d : Disk} (plain : d.isPlain = true) {dir pattern : String}
    {tokens : List Glob.Token} (valid : Glob.parse pattern = .ok tokens)
    (there : d.holds dir = true) (base : String) :
    ∃ samples r start item,
      Sample.discover d dir pattern = .ok samples ∧ Registry.ofDir d dir pattern base = .ok r ∧
      d.locate dir true = .ok (start, item) ∧
      (∀ s, s ∈ samples ↔
        (∃ below text, d.at? (start ++ below) = some (.file text) ∧
          s = ⟨"/".intercalate below, below.foldl Disk.Path.join dir⟩) ∧
        Glob.isMatch tokens s.key = true) ∧
      (∀ s ∈ samples, ∀ t ∈ samples, s.key ≠ t.key →
        start ++ Disk.Path.names s.key ≠ start ++ Disk.Path.names t.key) ∧
      ∀ events,
        let w := run r { disk := d } events
        let past := answers r { disk := d } events
        (∀ key, (w.load r key).1 = none ↔ ∀ s ∈ samples, s.key ≠ key) ∧
        ∀ s ∈ samples,
          let place := start ++ Disk.Path.names s.key
          (∀ text, firstText? s.key past = some text → ∀ other : Disk,
            load r { w with disk := other } s.key = (some (.ok text),
              { disk := other
                cache := { w.cache with stats.hits := w.cache.stats.hits + 1 } })) ∧
          w.disk.readText s.path = w.disk.textAt place ∧
          (firstText? s.key past = none →
            (∀ text, w.disk.textAt place = .ok text → (w.load r s.key).1 = some (.ok text)) ∧
            ∀ failure, w.disk.textAt place = .error failure →
              (w.load r s.key).1 = some (.error (.disk failure.shared)) ∧
              failure.shared.text = failure.text ∧
              (∃ stats, (w.load r s.key).2 = { w with cache := { w.cache with stats } }) ∧
              ∀ more, answers r (w.load r s.key).2 more = answers r w more) ∧
          past.filter (·.1 == s.key) =
            answers r { disk := d } (events.filter (concerns s.key place)) := by
  obtain ⟨⟨start, item⟩, led⟩ : ∃ found, d.locate dir true = .ok found := by
    unfold Disk.holds at there
    cases located : d.locate dir true with
    | ok found => exact ⟨found, rfl⟩
    | error failure =>
        rw [located] at there
        cases there
  have linkless := Disk.linkless_of_isPlain plain
  obtain ⟨samples, discovered, members⟩ := Sample.exists_discovered plain valid led
  have file : ∀ s ∈ samples, ∃ text, d.at? (start ++ Disk.Path.names s.key) = some (.file text) ∧
      s = ⟨"/".intercalate (Disk.Path.names s.key),
        (Disk.Path.names s.key).foldl Disk.Path.join dir⟩ := fun s member =>
    Sample.exists_file_at_key plain ((members s).1 member).1
  have single : ∀ s ∈ samples, ∀ t ∈ samples,
      Disk.Path.names s.key = Disk.Path.names t.key → s = t := by
    intro s member t member' same
    obtain ⟨_, _, first⟩ := file s member
    obtain ⟨_, _, second⟩ := file t member'
    rw [first, second, same]
  let r := (Registry.empty base).putSamples samples
  have slotted : r.Slotted := Registry.slotted_putSamples base
  refine ⟨samples, r, start, item, discovered, by simp only [Registry.ofDir, discovered, r], led,
    members, ?_, fun events => ?_⟩
  · intro s member t member' different same
    exact different (congrArg Sample.key (single s member t member' (List.append_cancel_left same)))
  intro w past
  have faithful : Faithful r d w past := (faithful_start r linkless).run slotted events
  refine ⟨fun key => ?_, fun s member => ?_⟩
  · rw [load_eq_none_iff]
    exact Registry.resolve?_eq_none_iff base key
  intro place
  obtain ⟨text, here, shown⟩ := file s member
  have known : r.resolve? s.key = some ⟨r.place s.key, s.path⟩ := by
    rw [Registry.place, Registry.base_putSamples]
    exact Registry.resolve?_of_mem base
      (fun s member t member' same => single s member t member' (congrArg _ same)) member
  have leads : d.locate s.path true = .ok (place, .file text) :=
    (congrArg Sample.path shown).symm ▸ Disk.locate_below plain led here
  refine ⟨fun text first other => ?_, faithful.kept.readText linkless leads, fun unread =>
    ⟨fun text read => ?_, fun failure read => ?_⟩, ?_⟩
  · exact load_cached known ((faithful.texts s.key).trans first)
  · rw [load_own linkless known leads faithful.kept faithful.idle, faithful.texts, unread, read]
    rfl
  · obtain ⟨stats, loaded⟩ := load_failed known faithful.idle ((faithful.texts s.key).trans unread)
      ((faithful.kept.readText linkless leads).trans read)
    have alike : Alike (w.load r s.key).2 w := by
      rw [loaded]
      exact ⟨rfl, rfl, faithful.idle, faithful.idle⟩
    exact ⟨by rw [loaded], failure.text_shared, ⟨stats, by rw [loaded]⟩, alike.answers r⟩
  · have agree : Agree r d s.key place { disk := d } { disk := d } :=
      ⟨⟨linkless.kept, linkless.kept⟩, ⟨rfl, rfl⟩, rfl, rfl⟩
    exact agree.answers_erased slotted linkless known leads events

/-- The first load of a sample reads its file, and from then on its text is shown whatever becomes
of the disk; loads and changes of the file beside it make no difference. -/
theorem sample_outlives_its_file :
    let d : Disk := { root := [("s", .dir [("a.rs", .file (some "alpha")),
      ("b.rs", .file (some "beta"))])] }
    let place := ["s", "a.rs"]
    d.isPlain = true ∧ d.holds "s" = true ∧
    ∃ r, Registry.ofDir d "s" "*.rs" "base//" = .ok r ∧
      (load r { disk := d } "a.rs").1 = some (.ok "alpha") ∧
      (∀ other, (load r { run r { disk := d } [.load "a.rs", .remove place] with disk := other }
        "a.rs").1 = some (.ok "alpha")) ∧
      ∀ events, (answers r { disk := d } events).filter (·.1 == "a.rs") =
        answers r { disk := d } (events.filter (concerns "a.rs" place)) := by
  intro d place
  have plain : d.isPlain = true := by decide
  have located : d.locate "s" true = .ok (["s"], .dir [("a.rs", .file (some "alpha")),
      ("b.rs", .file (some "beta"))]) := by
    rw [(Disk.linkless_of_isPlain plain).locate_eq_descend (by decide)]
    rfl
  have there : d.holds "s" = true := by
    rw [Disk.holds, located]
    rfl
  obtain ⟨samples, r, start, item, -, registered, led, members, -, shows⟩ :=
    sample_shows_its_own_file plain
      (show Glob.parse "*.rs" = .ok [.anyRun, .char '.', .char 'r', .char 's'] from rfl) there
      "base//"
  cases located.symm.trans led
  have member : (⟨"a.rs", "s/a.rs"⟩ : Sample) ∈ samples :=
    (members _).2 ⟨⟨["a.rs"], some "alpha", rfl, by decide⟩, by decide⟩
  have read : (load r { disk := d } "a.rs").1 = some (.ok "alpha") :=
    (((shows []).2 _ member).2.2.1 rfl).1 "alpha" rfl
  have first : firstText? "a.rs" (answers r { disk := d } [.load "a.rs", .remove place]) =
      some "alpha" := by
    simp [answers, answer, read, firstText?, Except.toOption]
  refine ⟨plain, there, r, registered, read, fun other => ?_, fun events => ?_⟩
  · rw [((shows _).2 _ member).1 "alpha" first other]
  · exact ((shows events).2 _ member).2.2.2

end Session

end Showcase
