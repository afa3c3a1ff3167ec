import Mathlib.Data.List.Nodup
import Mathlib.Data.List.Perm.Basic
import Showcase.Cache

/-!
# The history of a cache

Calls come at any time and for any keys, and a loader that a call has to run ends at any later time
and with any result.  A `History` is the cache with every call that was made and every loader that
ended.  Two things can happen: a call is made, and the loader of a call ends.  The second one hands
the result to everyone who waits for that key.

`Coherent` is what every run keeps.  The cache has exactly the first successes in the history; the
keys at work are those of the calls whose loaders run, one for each; who has no result yet waits
for one of these; and the counters count calls and ended loaders.
-/

namespace Showcase.Cache

/-! ## Calls and the ends of loaders -/

/-- What a call has as soon as it is told something. -/
def Reply.result? : Reply → Option (Except Fault String)
  | .hit text => some (.ok text)
  | .lead | .wait => none

/-- A call that was made. -/
structure Caller where
  /-- The key asked for. -/
  key : String
  /-- What the call was told. -/
  reply : Reply
  /-- Its result, if it has one by now. -/
  result? : Option (Except Fault String)

namespace Caller

/-- Whether the call has no result yet. -/
def isPending (c : Caller) : Bool := c.result?.isNone

/-- Whether the call had to run its loader. -/
def leads (c : Caller) : Bool := c.reply == .lead

/-- Whether the call joined the loader of another one. -/
def joins (c : Caller) : Bool := c.reply == .wait

/-- Whether the loader of the call runs. -/
def isAtWork (c : Caller) : Bool := c.leads && c.isPending

/-- The call when a loader of a key has ended with a result for all who wait. -/
def hear (key : String) (result : Except Fault String) (c : Caller) : Caller :=
  if c.key = key ∧ c.isPending = true then { c with result? := some result } else c

end Caller

/-- The end of a loader. -/
structure Ending where
  /-- The key it loaded. -/
  key : String
  /-- What it found. -/
  result : Except Fault String

/-- The text that a loader of a key brought, if it is of that key and succeeded. -/
def Ending.text? (key : String) (e : Ending) : Option String :=
  if e.key = key then e.result.toOption else none

/-- A cache, the calls made so far and the loaders ended so far. -/
structure History where
  /-- The cache. -/
  cache : Cache := {}
  /-- The calls, the first one first. -/
  callers : List Caller := []
  /-- The ends of loaders, the first one first. -/
  endings : List Ending := []

/-- The keys of the texts that are kept. -/
def keys (c : Cache) : List String := c.texts.map (·.1)

namespace History

/-- Something that happens.  A call is named by the number of calls before it. -/
inductive Event where
  /-- A key is asked for. -/
  | call (key : String)
  /-- The loader of a call ends. -/
  | finish (n : Nat) (result : Except Fault String)

/-- A call is made. -/
def call (h : History) (key : String) : History :=
  { h with
    cache := (h.cache.ask key).2
    callers := h.callers ++ [⟨key, (h.cache.ask key).1, (h.cache.ask key).1.result?⟩] }

/-- A loader of a key ends. -/
def finish (h : History) (key : String) (result : Except Fault String) : History :=
  { cache := h.cache.settle key result
    callers := h.callers.map (Caller.hear key (handOut result))
    endings := h.endings ++ [⟨key, result⟩] }

/-- The key of a call whose loader runs. -/
def atWork? (h : History) (n : Nat) : Option String :=
  (h.callers[n]?.filter Caller.isAtWork).map (·.key)

/-- The history after something has happened.  A loader that does not run cannot end. -/
def step (h : History) : Event → History
  | .call key => h.call key
  | .finish n result =>
    match h.atWork? n with
    | some key => h.finish key result
    | none => h

/-- The history after a list of events. -/
def run (h : History) (events : List Event) : History := events.foldl step h

/-- The text of the first loader of a key that succeeded. -/
def firstText? (h : History) (key : String) : Option String :=
  h.endings.findSome? (Ending.text? key)

theorem run_append (h : History) (events more : List Event) :
    h.run (events ++ more) = (h.run events).run more :=
  List.foldl_append

theorem run_cons (h : History) (event : Event) (events : List Event) :
    h.run (event :: events) = (h.step event).run events := rfl

theorem run_concat (h : History) (events : List Event) (event : Event) :
    h.run (events ++ [event]) = (h.run events).step event :=
  List.foldl_concat ..

theorem step_finish {h : History} {n : Nat} {key : String} (atWork : h.atWork? n = some key)
    (result : Except Fault String) : h.step (.finish n result) = h.finish key result := by
  simp only [step, atWork]

/-- What every step keeps is kept by every run. -/
theorem run_induction {P : History → Prop} (kept : ∀ h event, P h → P (h.step event))
    {h : History} (start : P h) (events : List Event) : P (h.run events) := by
  unfold run
  apply List.foldlRecOn events step start
  intro h holds event _
  exact kept h event holds

end History

/-! ## What the cache does -/

/-- A request finds its text, or joins the loader of its key, or has to run its own. -/
theorem ask_cases (c : Cache) (key : String) :
    (∃ text, c.text? key = some text ∧
      c.ask key = (.hit text, { c with stats.hits := c.stats.hits + 1 })) ∨
    (c.text? key = none ∧ key ∈ c.working ∧
      c.ask key = (.wait, { c with stats.misses := c.stats.misses + 1 })) ∨
    (c.text? key = none ∧ key ∉ c.working ∧
      c.ask key = (.lead,
        { c with working := key :: c.working, stats.misses := c.stats.misses + 1 })) := by
  cases found : c.text? key with
  | some text => exact Or.inl ⟨text, rfl, by simp only [ask, found]⟩
  | none =>
      refine Or.inr ?_
      by_cases busy : key ∈ c.working
      · exact Or.inl ⟨rfl, busy, by simp [ask, found, busy]⟩
      · exact Or.inr ⟨rfl, busy, by simp [ask, found, busy]⟩

theorem mem_keys_iff (c : Cache) (key : String) : key ∈ c.keys ↔ c.contains key = true := by
  unfold keys contains text?
  induction c.texts with
  | nil => simp
  | cons slot texts induction =>
      obtain ⟨k, text⟩ := slot
      by_cases same : key = k
      · simp [same]
      · simp [same, induction, List.lookup_cons, beq_false_of_ne same]

theorem text?_settle_ok (c : Cache) (key text other : String) :
    (c.settle key (.ok text)).text? other = if other = key then some text else c.text? other := by
  simp only [settle, text?, List.lookup_cons]
  by_cases same : other = key
  · simp [same]
  · simp [same, beq_false_of_ne same]

namespace Caller

@[simp] theorem key_hear (key : String) (result : Except Fault String) (c : Caller) :
    (c.hear key result).key = c.key := by
  unfold hear
  split <;> rfl

@[simp] theorem reply_hear (key : String) (result : Except Fault String) (c : Caller) :
    (c.hear key result).reply = c.reply := by
  unfold hear
  split <;> rfl

@[simp] theorem leads_hear (key : String) (result : Except Fault String) (c : Caller) :
    (c.hear key result).leads = c.leads := by
  simp only [leads, reply_hear]

@[simp] theorem joins_hear (key : String) (result : Except Fault String) (c : Caller) :
    (c.hear key result).joins = c.joins := by
  simp only [joins, reply_hear]

theorem isPending_hear (key : String) (result : Except Fault String) (c : Caller) :
    (c.hear key result).isPending = (c.key != key && c.isPending) := by
  unfold hear
  split
  next heard => simp [isPending, heard.1]
  next other =>
    cases pending : c.isPending with
    | false => simp
    | true => simpa [pending] using other

/-- Who has a result hears of no other one. -/
theorem hear_of_result? {c : Caller} {got : Except Fault String} (has : c.result? = some got)
    (key : String) (result : Except Fault String) : c.hear key result = c := by
  simp [hear, isPending, has]

/-- The loaders that still run are those of other keys. -/
theorem isAtWork_hear (key : String) (result : Except Fault String) (c : Caller) :
    (c.hear key result).isAtWork = (c.key != key && c.isAtWork) := by
  simp only [isAtWork, leads_hear, isPending_hear]
  exact Bool.and_left_comm ..

end Caller

namespace History

theorem firstText?_finish (h : History) (key : String) (result : Except Fault String)
    (other : String) :
    (h.finish key result).firstText? other =
      (h.firstText? other).or (if key = other then result.toOption else none) := by
  simp [firstText?, finish, List.findSome?_append, Ending.text?]

/-- Who has an empty hand after a loader ended waits for another key. -/
theorem map_key_isAtWork_finish (h : History) (key : String) (result : Except Fault String) :
    ((h.finish key result).callers.filter Caller.isAtWork).map (·.key) =
      ((h.callers.filter Caller.isAtWork).map (·.key)).filter (· != key) := by
  simp [finish, List.filter_map, List.filter_filter, Function.comp_def, Caller.isAtWork_hear]

/-! ## The invariant -/

/-- What every run keeps. -/
structure Coherent (h : History) : Prop where
  /-- The texts are the first successes. -/
  text : ∀ key, h.cache.text? key = h.firstText? key
  /-- A key has one text. -/
  keys : h.cache.keys.Nodup
  /-- The keys at work are those of the loaders that run. -/
  working : h.cache.working.Perm ((h.callers.filter Caller.isAtWork).map (·.key))
  /-- A key has one loader that runs. -/
  single : h.cache.working.Nodup
  /-- A loader runs only for a key without a text. -/
  fresh : ∀ key ∈ h.cache.working, h.cache.text? key = none
  /-- Who has no result waits for a loader that runs. -/
  awaited : ∀ c ∈ h.callers, c.isPending = true → c.key ∈ h.cache.working
  /-- Who has a text has the first success. -/
  answered : ∀ c ∈ h.callers, ∀ text, c.result? = some (.ok text) → h.firstText? c.key = some text
  /-- Every call is a hit or a miss. -/
  asked : h.cache.stats.hits + h.cache.stats.misses = h.callers.length
  /-- Who misses runs its loader or joins another one. -/
  missed : h.cache.stats.misses = h.callers.countP Caller.leads + h.callers.countP Caller.joins
  /-- A loader runs or has ended. -/
  loaded : h.callers.countP Caller.leads = h.cache.working.length + h.cache.stats.loads
  /-- A loader that ended has failed or left its text. -/
  ended : h.cache.stats.loads = h.cache.stats.failures + h.cache.keys.length

theorem coherent_start : Coherent {} where
  text := fun _ => rfl
  keys := List.nodup_nil
  working := List.Perm.refl _
  single := List.nodup_nil
  fresh := by simp
  awaited := by simp
  answered := by simp
  asked := rfl
  missed := rfl
  loaded := rfl
  ended := rfl

/-! ### A call -/

section

variable {h : History} (coherent : h.Coherent) {key : String}
include coherent

theorem Coherent.hit {text : String} (found : h.cache.text? key = some text) :
    Coherent { h with
      cache := { h.cache with stats.hits := h.cache.stats.hits + 1 }
      callers := h.callers ++ [⟨key, .hit text, some (.ok text)⟩] } where
  text := coherent.text
  keys := coherent.keys
  working := by simpa [Caller.isAtWork, Caller.leads] using coherent.working
  single := coherent.single
  fresh := coherent.fresh
  awaited := List.forall_mem_append.2 ⟨coherent.awaited, by simp [Caller.isPending]⟩
  answered := by
    refine List.forall_mem_append.2 ⟨coherent.answered, List.forall_mem_singleton.2 ?_⟩
    intro other got
    obtain rfl : text = other := by simpa using got
    exact (coherent.text key).symm.trans found
  asked := by
    have := coherent.asked
    simp only [List.length_append, List.length_singleton]
    omega
  missed := by simpa [Caller.leads, Caller.joins] using coherent.missed
  loaded := by simpa [Caller.leads] using coherent.loaded
  ended := coherent.ended

theorem Coherent.join (busy : key ∈ h.cache.working) :
    Coherent { h with
      cache := { h.cache with stats.misses := h.cache.stats.misses + 1 }
      callers := h.callers ++ [⟨key, .wait, none⟩] } where
  text := coherent.text
  keys := coherent.keys
  working := by simpa [Caller.isAtWork, Caller.leads] using coherent.working
  single := coherent.single
  fresh := coherent.fresh
  awaited := List.forall_mem_append.2 ⟨coherent.awaited,
    List.forall_mem_singleton.2 fun _ => busy⟩
  answered := List.forall_mem_append.2 ⟨coherent.answered, by simp⟩
  asked := by
    have := coherent.asked
    simp only [List.length_append, List.length_singleton]
    omega
  missed := by
    rw [coherent.missed]
    simp [Caller.leads, Caller.joins]
    omega
  loaded := by simpa [Caller.leads] using coherent.loaded
  ended := coherent.ended

/-- A loader is started only for a key that has neither a text nor a loader that runs. -/
theorem Coherent.lead (missing : h.cache.text? key = none) (idle : key ∉ h.cache.working) :
    Coherent { h with
      cache := { h.cache with
        working := key :: h.cache.working
        stats.misses := h.cache.stats.misses + 1 }
      callers := h.callers ++ [⟨key, .lead, none⟩] } where
  text := coherent.text
  keys := coherent.keys
  working := by
    rw [List.filter_append, List.map_append]
    exact (coherent.working.cons key).trans (List.perm_append_singleton ..).symm
  single := List.nodup_cons.2 ⟨idle, coherent.single⟩
  fresh := List.forall_mem_cons.2 ⟨missing, coherent.fresh⟩
  awaited := List.forall_mem_append.2
    ⟨fun c member pending => List.mem_cons_of_mem key (coherent.awaited c member pending),
      List.forall_mem_singleton.2 fun _ => List.mem_cons_self⟩
  answered := List.forall_mem_append.2 ⟨coherent.answered, by simp⟩
  asked := by
    have := coherent.asked
    simp only [List.length_append, List.length_singleton]
    omega
  missed := by
    rw [coherent.missed]
    simp [Caller.leads, Caller.joins]
    omega
  loaded := by
    have := coherent.loaded
    simp only [List.countP_append, this, List.length_cons]
    simp [Caller.leads]
    omega
  ended := coherent.ended

theorem Coherent.call (key : String) : (h.call key).Coherent := by
  unfold History.call
  rcases h.cache.ask_cases key with ⟨text, found, asked⟩ | ⟨_, busy, asked⟩ |
    ⟨missing, idle, asked⟩
  · rw [asked]
    exact coherent.hit found
  · rw [asked]
    exact coherent.join busy
  · rw [asked]
    exact coherent.lead missing idle

end

/-! ### The end of a loader -/

/-- The calls that run a loader or join one are the same, and one loader less runs. -/
theorem counts_finish {h : History} {key : String} (running : key ∈ h.cache.working)
    (result : Except Fault String) :
    (h.finish key result).callers.countP Caller.leads = h.callers.countP Caller.leads ∧
    (h.finish key result).callers.countP Caller.joins = h.callers.countP Caller.joins ∧
    (h.cache.working.erase key).length + 1 = h.cache.working.length := by
  refine ⟨?_, ?_, List.length_erase_add_one running⟩
  · simp [History.finish, List.countP_map, Function.comp_def]
  · simp [History.finish, List.countP_map, Function.comp_def]

section

variable {h : History} (coherent : h.Coherent) {key : String} (running : key ∈ h.cache.working)
include coherent running

/-- Before its loader has ended a key has had no success. -/
theorem Coherent.firstText?_eq_none : h.firstText? key = none := by
  rw [← coherent.text]
  exact coherent.fresh key running

omit running in
/-- When a loader has ended in any way, the others are still at work. -/
theorem Coherent.working_finish (result : Except Fault String) :
    (h.cache.working.erase key).Perm
      (((h.finish key result).callers.filter Caller.isAtWork).map (·.key)) := by
  rw [map_key_isAtWork_finish, coherent.single.erase_eq_filter]
  exact coherent.working.filter _

omit running in
theorem Coherent.awaited_finish (result : Except Fault String) :
    ∀ c ∈ (h.finish key result).callers, c.isPending = true →
      c.key ∈ h.cache.working.erase key := by
  intro c member pending
  obtain ⟨before, known, rfl⟩ := List.mem_map.1 member
  rw [Caller.isPending_hear, Bool.and_eq_true, bne_iff_ne] at pending
  rw [Caller.key_hear]
  exact (List.mem_erase_of_ne pending.1).2 (coherent.awaited before known pending.2)

/-- Who waited has the first success now, and who had a text before keeps it. -/
theorem Coherent.answered_finish (result : Except Fault String) :
    ∀ c ∈ (h.finish key result).callers, ∀ text, c.result? = some (.ok text) →
      (h.finish key result).firstText? c.key = some text := by
  intro c member text got
  obtain ⟨before, known, rfl⟩ := List.mem_map.1 member
  rw [Caller.key_hear, firstText?_finish]
  by_cases heard : before.key = key ∧ before.isPending = true
  · obtain ⟨rfl, pending⟩ := heard
    rw [coherent.firstText?_eq_none running]
    have handed : handOut result = .ok text := by simpa [Caller.hear, pending] using got
    cases result with
    | ok found => simpa [handOut, Except.toOption] using handed
    | error fault => cases handed
  · rw [Caller.hear, if_neg heard] at got
    rw [coherent.answered before known text got]
    rfl

theorem Coherent.finish_ok (text : String) : (h.finish key (.ok text)).Coherent where
  text := by
    intro other
    rw [firstText?_finish, ← coherent.text]
    change (h.cache.settle key (.ok text)).text? other = _
    rw [text?_settle_ok]
    by_cases same : other = key
    · subst same
      simp [coherent.fresh other running, Except.toOption]
    · simp [same, Ne.symm same]
  keys := by
    have absent : key ∉ h.cache.keys := by
      rw [mem_keys_iff, contains, coherent.fresh key running]
      exact Bool.false_ne_true
    exact List.nodup_cons.2 ⟨absent, coherent.keys⟩
  working := coherent.working_finish (.ok text)
  single := coherent.single.erase key
  fresh := by
    intro other member
    have different : other ≠ key := fun same => coherent.single.not_mem_erase (same ▸ member)
    change (h.cache.settle key (.ok text)).text? other = none
    rw [text?_settle_ok, if_neg different]
    exact coherent.fresh other (List.mem_of_mem_erase member)
  awaited := coherent.awaited_finish (.ok text)
  answered := coherent.answered_finish running (.ok text)
  asked := by
    rw [History.finish, List.length_map]
    exact coherent.asked
  missed := by
    obtain ⟨leads, joins, _⟩ := counts_finish running (.ok text)
    rw [leads, joins]
    exact coherent.missed
  loaded := by
    obtain ⟨leads, _, counted⟩ := counts_finish running (.ok text)
    rw [leads, coherent.loaded, ← counted]
    simp only [History.finish, settle]
    omega
  ended := by
    have := coherent.ended
    simp only [History.finish, settle, Cache.keys, List.map_cons, List.length_cons] at this ⊢
    omega

theorem Coherent.finish_error (fault : Fault) : (h.finish key (.error fault)).Coherent where
  text := by
    intro other
    rw [firstText?_finish, ← coherent.text]
    simp [Except.toOption]
    rfl
  keys := coherent.keys
  working := coherent.working_finish (.error fault)
  single := coherent.single.erase key
  fresh := by
    intro other member
    exact coherent.fresh other (List.mem_of_mem_erase member)
  awaited := coherent.awaited_finish (.error fault)
  answered := coherent.answered_finish running (.error fault)
  asked := by
    rw [History.finish, List.length_map]
    exact coherent.asked
  missed := by
    obtain ⟨leads, joins, _⟩ := counts_finish running (.error fault)
    rw [leads, joins]
    exact coherent.missed
  loaded := by
    obtain ⟨leads, _, counted⟩ := counts_finish running (.error fault)
    rw [leads, coherent.loaded, ← counted]
    simp only [History.finish, settle]
    omega
  ended := by
    have := coherent.ended
    simp only [History.finish, settle, Cache.keys] at this ⊢
    omega

end

/-- A call whose loader runs has no result yet. -/
theorem exists_pending_of_atWork? {h : History} {n : Nat} {key : String}
    (atWork : h.atWork? n = some key) :
    ∃ c, h.callers[n]? = some c ∧ c.key = key ∧ c.isPending = true := by
  obtain ⟨c, found, same⟩ := Option.map_eq_some_iff.1 atWork
  obtain ⟨called, runs⟩ := Option.filter_eq_some_iff.1 found
  rw [Caller.isAtWork, Bool.and_eq_true] at runs
  exact ⟨c, called, same, runs.2⟩

/-- The loader of a call that runs is at work in the cache. -/
theorem Coherent.mem_working {h : History} (coherent : h.Coherent) {n : Nat} {key : String}
    (atWork : h.atWork? n = some key) : key ∈ h.cache.working := by
  obtain ⟨c, called, rfl, pending⟩ := exists_pending_of_atWork? atWork
  exact coherent.awaited c (List.mem_of_getElem? called) pending

/-- Every step keeps the history coherent. -/
theorem Coherent.step {h : History} (coherent : h.Coherent) (event : Event) :
    (h.step event).Coherent := by
  cases event with
  | call key => exact coherent.call key
  | finish n result =>
      simp only [History.step]
      split
      next key atWork =>
        have running := coherent.mem_working atWork
        cases result with
        | ok text => exact coherent.finish_ok running text
        | error fault => exact coherent.finish_error running fault
      next nothing => exact coherent

/-- Every run is coherent. -/
theorem Coherent.run {h : History} (coherent : h.Coherent) (events : List Event) :
    (h.run events).Coherent :=
  run_induction (fun _ event coherent => coherent.step event) coherent events

end History

end Showcase.Cache
