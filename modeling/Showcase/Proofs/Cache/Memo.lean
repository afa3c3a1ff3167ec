import Showcase.Proofs.Cache.History

/-!
# The cache is a memo table

The cache never forgets: once a loader of a key has succeeded, everyone who waits is handed its
text, everyone who asks later gets the same one at once, and no loader of the key is started again
(`Remembers`).  A failure leaves the table as it was and frees the key, so that the next one to ask
runs its own loader (`Idle`).  Both are kept by every step, the second one as long as nobody asks
for the key.

The counters follow from the invariant of histories: who misses runs a loader or joins one, and a
loader runs, has failed, or has left its text.
-/

namespace Showcase.Cache.History

/-! ## After a success -/

/-- No loader runs for a key that has its text. -/
theorem Coherent.not_mem_working {h : History} (coherent : h.Coherent) {key text : String}
    (known : h.firstText? key = some text) : key ∉ h.cache.working := by
  intro running
  rw [coherent.firstText?_eq_none running] at known
  cases known

theorem Coherent.ask_of_firstText? {h : History} (coherent : h.Coherent) {key text : String}
    (known : h.firstText? key = some text) : (h.cache.ask key).1 = .hit text := by
  rw [← coherent.text] at known
  simp only [ask, known]

/-- Since an earlier history, in which a key had its text already, no loader of the key has been
started or has ended, and everyone who asked for it was given the text. -/
structure Remembers (key text : String) (before h : History) : Prop where
  /-- The history is coherent. -/
  coherent : h.Coherent
  /-- The first success is the same. -/
  known : h.firstText? key = some text
  /-- No loader of the key has ended. -/
  endings : h.endings.filter (·.key == key) = before.endings.filter (·.key == key)
  /-- Calls are only added. -/
  grown : before.callers.length ≤ h.callers.length
  /-- Everyone who asked for the key was given the text at once. -/
  hits : ∀ c ∈ h.callers.drop before.callers.length, c.key = key →
    c.reply = .hit text ∧ c.result? = some (.ok text)

theorem remembers_start {h : History} (coherent : h.Coherent) {key text : String}
    (known : h.firstText? key = some text) : Remembers key text h h where
  coherent := coherent
  known := known
  endings := rfl
  grown := Nat.le_refl _
  hits := by simp

theorem Remembers.call {key text : String} {before h : History}
    (remembers : Remembers key text before h) (other : String) :
    Remembers key text before (h.call other) where
  coherent := remembers.coherent.call other
  known := remembers.known
  endings := remembers.endings
  grown := by
    have := remembers.grown
    simp only [History.call, List.length_append, List.length_singleton]
    omega
  hits := by
    intro c member same
    rw [History.call, List.drop_append_of_le_length remembers.grown] at member
    rcases List.mem_append.1 member with earlier | newest
    · exact remembers.hits c earlier same
    · obtain rfl := List.mem_singleton.1 newest
      obtain rfl : other = key := same
      have told := remembers.coherent.ask_of_firstText? remembers.known
      exact ⟨told, by simp only [told, Reply.result?]⟩

theorem Remembers.finish {key text : String} {before h : History}
    (remembers : Remembers key text before h) {other : String}
    (running : other ∈ h.cache.working) (result : Except Fault String)
    (coherent : (h.finish other result).Coherent) :
    Remembers key text before (h.finish other result) where
  coherent := coherent
  known := by
    rw [firstText?_finish, remembers.known]
    rfl
  endings := by
    have different : other ≠ key := fun same =>
      remembers.coherent.not_mem_working remembers.known (same ▸ running)
    simp only [History.finish, List.filter_append, remembers.endings]
    simp [different]
  grown := by
    rw [History.finish, List.length_map]
    exact remembers.grown
  hits := by
    intro c member same
    rw [History.finish, ← List.map_drop] at member
    obtain ⟨earlier, known, rfl⟩ := List.mem_map.1 member
    rw [Caller.key_hear] at same
    have hit := remembers.hits earlier known same
    rw [Caller.hear_of_result? hit.2]
    exact hit

theorem Remembers.step {key text : String} {before h : History}
    (remembers : Remembers key text before h) (event : Event) :
    Remembers key text before (h.step event) := by
  have coherent := remembers.coherent.step event
  cases event with
  | call other => exact remembers.call other
  | finish n result =>
      simp only [History.step] at coherent ⊢
      split at coherent
      next other atWork =>
        exact remembers.finish (remembers.coherent.mem_working atWork) result coherent
      next nothing => exact remembers

/-- A key that has its text is remembered by every run. -/
theorem Remembers.run {h : History} (coherent : h.Coherent) {key text : String}
    (known : h.firstText? key = some text) (events : List Event) :
    Remembers key text h (h.run events) :=
  run_induction (fun _ event remembers => remembers.step event) (remembers_start coherent known)
    events

/-- The loader that succeeds is the first one of its key that does. -/
theorem Coherent.firstText?_finish_ok {h : History} (coherent : h.Coherent) {key : String}
    (running : key ∈ h.cache.working) (text : String) :
    (h.finish key (.ok text)).firstText? key = some text := by
  rw [firstText?_finish, coherent.firstText?_eq_none running, if_pos rfl]
  rfl

/-- Nobody waits for a key that has its text. -/
theorem Coherent.isPending_eq_false {h : History} (coherent : h.Coherent) {key text : String}
    (known : h.firstText? key = some text) {c : Caller} (member : c ∈ h.callers)
    (same : c.key = key) : c.isPending = false := by
  rw [Bool.eq_false_iff]
  intro pending
  exact coherent.not_mem_working known (same ▸ coherent.awaited c member pending)

/-! ## After a failure -/

/-- A key has neither a text nor a loader that runs. -/
def Idle (key : String) (h : History) : Prop :=
  h.cache.text? key = none ∧ key ∉ h.cache.working

theorem Idle.ask {key : String} {h : History} (idle : h.Idle key) :
    (h.cache.ask key).1 = .lead := by
  obtain ⟨missing, free⟩ := idle
  simp [Cache.ask, missing, free]

theorem Idle.call {key : String} {h : History} (idle : h.Idle key) {other : String}
    (different : other ≠ key) : (h.call other).Idle key := by
  obtain ⟨missing, free⟩ := idle
  unfold History.call
  rcases h.cache.ask_cases other with ⟨text, _, asked⟩ | ⟨_, _, asked⟩ | ⟨_, _, asked⟩
  · rw [asked]
    exact ⟨missing, free⟩
  · rw [asked]
    exact ⟨missing, free⟩
  · rw [asked]
    exact ⟨missing, by simp [Ne.symm different, free]⟩

theorem Idle.finish {key : String} {h : History} (idle : h.Idle key) {other : String}
    (running : other ∈ h.cache.working) (result : Except Fault String) :
    (h.finish other result).Idle key := by
  obtain ⟨missing, free⟩ := idle
  have different : key ≠ other := fun same => free (same ▸ running)
  have absent : key ∉ h.cache.working.erase other := fun member =>
    free (List.mem_of_mem_erase member)
  cases result with
  | ok text =>
      refine ⟨?_, absent⟩
      change (h.cache.settle other (.ok text)).text? key = none
      rw [text?_settle_ok, if_neg different]
      exact missing
  | error fault => exact ⟨missing, absent⟩

/-- A key stays idle until someone asks for it. -/
theorem Idle.run {key : String} {h : History} (coherent : h.Coherent) (idle : h.Idle key)
    {events : List Event} (unasked : ∀ event ∈ events, event ≠ .call key) :
    (h.run events).Idle key := by
  have both : (h.run events).Coherent ∧ (h.run events).Idle key := by
    refine List.foldlRecOn (motive := fun h : History => h.Coherent ∧ h.Idle key) events
      History.step ⟨coherent, idle⟩ ?_
    rintro h ⟨coherent, idle⟩ event member
    refine ⟨coherent.step event, ?_⟩
    cases event with
    | call other => exact idle.call fun same => unasked _ member (by rw [same])
    | finish n result =>
        simp only [History.step]
        split
        next other atWork => exact idle.finish (coherent.mem_working atWork) result
        next nothing => exact idle
  exact both.2

theorem Coherent.idle_finish_error {h : History} (coherent : h.Coherent) {key : String}
    (running : key ∈ h.cache.working) (fault : Fault) : (h.finish key (.error fault)).Idle key :=
  ⟨coherent.fresh key running, coherent.single.not_mem_erase⟩

/-! ## What is counted -/

theorem Coherent.contains_iff {h : History} (coherent : h.Coherent) (key : String) :
    h.cache.contains key = true ↔
      ∃ ending ∈ h.endings, ending.key = key ∧ ∃ text, ending.result = .ok text := by
  rw [contains, coherent.text, firstText?, List.isSome_findSome?, List.any_eq_true]
  constructor
  · rintro ⟨ending, member, brought⟩
    unfold Ending.text? at brought
    split at brought
    next same =>
      cases found : ending.result with
      | ok text => exact ⟨ending, member, same, text, found⟩
      | error fault => simp [found, Except.toOption] at brought
    next other => cases brought
  · rintro ⟨ending, member, same, text, found⟩
    exact ⟨ending, member, by simp [Ending.text?, same, found, Except.toOption]⟩

/-- When everyone has a result no loader runs. -/
theorem Coherent.working_eq_nil {h : History} (coherent : h.Coherent)
    (settled : ∀ c ∈ h.callers, c.isPending = false) : h.cache.working = [] := by
  have nobody : h.callers.filter Caller.isAtWork = [] := by
    rw [List.filter_eq_nil_iff]
    intro c member atWork
    rw [Caller.isAtWork, settled c member, Bool.and_false] at atWork
    cases atWork
  have empty := coherent.working
  rw [nobody] at empty
  exact empty.eq_nil

/-! ## Every interleaving -/

/-- In every run, with calls and ends of loaders in any order: everyone who was given a text has
the first success of the key, and after it no loader of the key runs or is started, and everyone
who asks for the key gets that text at once; a loader that succeeds leaves its text for its key
alone and gives it to everyone who waits; a loader that fails changes no text, gives everyone who
waits for it a copy of its fault, and leaves the next one who asks to run a loader; and the counters
count what happened. -/
theorem cache_coalesces_and_never_forgets (events : List Event) :
    let h := ({} : History).run events
    (∀ c ∈ h.callers, ∀ text, c.result? = some (.ok text) → h.firstText? c.key = some text) ∧
    (∀ key text, h.firstText? key = some text →
      (∀ c ∈ h.callers, c.key = key → c.isPending = false) ∧
      ∀ more,
        (h.run more).endings.filter (·.key == key) = h.endings.filter (·.key == key) ∧
        ∀ c ∈ (h.run more).callers.drop h.callers.length, c.key = key →
          c.reply = .hit text ∧ c.result? = some (.ok text)) ∧
    (∀ n key text, h.atWork? n = some key →
      let done := h.step (.finish n (.ok text))
      done.firstText? key = some text ∧
      (∀ other, done.cache.text? other = if other = key then some text else h.cache.text? other) ∧
      done.callers = h.callers.map (fun c =>
        if c.key = key ∧ c.isPending = true then { c with result? := some (.ok text) } else c)) ∧
    (∀ n key fault, h.atWork? n = some key →
      let failed := h.step (.finish n (.error fault))
      failed.cache.texts = h.cache.texts ∧
      failed.callers = h.callers.map (fun c =>
        if c.key = key ∧ c.isPending = true then { c with result? := some (.error fault.shared) }
        else c) ∧
      ∀ more, (∀ event ∈ more, event ≠ .call key) →
        ((failed.run more).step (.call key)).callers.getLast? = some ⟨key, .lead, none⟩) ∧
    (∀ key, h.cache.contains key = true ↔
      ∃ ending ∈ h.endings, ending.key = key ∧ ∃ text, ending.result = .ok text) ∧
    h.cache.stats.hits + h.cache.stats.misses = h.callers.length ∧
    h.cache.stats.failures ≤ h.cache.stats.loads ∧ h.cache.stats.loads ≤ h.cache.stats.misses ∧
    h.cache.keys.Nodup ∧ (∀ key, key ∈ h.cache.keys ↔ h.cache.contains key = true) ∧
    h.cache.stats.loads - h.cache.stats.failures = h.cache.keys.length ∧
    ((∀ c ∈ h.callers, c.isPending = false) →
      h.cache.stats.misses - h.cache.stats.loads = h.callers.countP Caller.joins) := by
  intro h
  have coherent : h.Coherent := coherent_start.run events
  have missed := coherent.missed
  have loaded := coherent.loaded
  have ended := coherent.ended
  refine ⟨coherent.answered, ?_, ?_, ?_, coherent.contains_iff, coherent.asked, by omega, by omega,
    coherent.keys, h.cache.mem_keys_iff, by omega, ?_⟩
  · intro key text known
    refine ⟨fun c member same => coherent.isPending_eq_false known member same, fun more => ?_⟩
    have remembers := Remembers.run coherent known more
    exact ⟨remembers.endings, remembers.hits⟩
  · intro n key text atWork done
    have running := coherent.mem_working atWork
    have stepped : done = h.finish key (.ok text) := step_finish atWork (.ok text)
    rw [stepped]
    exact ⟨coherent.firstText?_finish_ok running text, h.cache.text?_settle_ok key text, rfl⟩
  · intro n key fault atWork failed
    have running := coherent.mem_working atWork
    have stepped : failed = h.finish key (.error fault) := step_finish atWork (.error fault)
    rw [stepped]
    refine ⟨rfl, rfl, fun more unasked => ?_⟩
    have idle := (coherent.idle_finish_error running fault).run
      (coherent.finish_error running fault) unasked
    simp [History.step, History.call, idle.ask, Reply.result?]
  · intro settled
    rw [coherent.working_eq_nil settled] at loaded
    simp only [List.length_nil] at loaded
    omega

/-- Two ask for `a` and two for `b`.  When the loader of `b` succeeds, both who asked for `b` have
its text, those who asked for `a` still wait, and everyone who asks for `b` from now on has the text
at once.  When the loader of `a` then fails, both who asked for `a` have its fault, nobody waits any
more, two calls had joined another one, and the next one to ask for `a` runs a loader. -/
theorem failure_frees_its_key_and_success_stays :
    let asked : List Event := [.call "a", .call "b", .call "a", .call "b"]
    let fault : Fault := .other "gone"
    let h := ({} : History).run asked
    let done := h.step (.finish 1 (.ok "beta"))
    let failed := done.step (.finish 0 (.error fault))
    (h.atWork? 1 = some "b" ∧ done.firstText? "b" = some "beta" ∧
      done.callers = [⟨"a", .lead, none⟩, ⟨"b", .lead, some (.ok "beta")⟩, ⟨"a", .wait, none⟩,
        ⟨"b", .wait, some (.ok "beta")⟩] ∧
      ∀ more, ∀ c ∈ (done.run more).callers.drop 4, c.key = "b" →
        c.reply = .hit "beta" ∧ c.result? = some (.ok "beta")) ∧
    (done.atWork? 0 = some "a" ∧
      failed.callers = [⟨"a", .lead, some (.error fault)⟩, ⟨"b", .lead, some (.ok "beta")⟩,
        ⟨"a", .wait, some (.error fault)⟩, ⟨"b", .wait, some (.ok "beta")⟩] ∧
      (failed.step (.call "a")).callers.getLast? = some ⟨"a", .lead, none⟩) ∧
    ((∀ c ∈ failed.callers, c.isPending = false) ∧
      failed.cache.stats.misses - failed.cache.stats.loads = 2) := by
  intro asked fault h done failed
  obtain ⟨-, -, succeeded, -⟩ := cache_coalesces_and_never_forgets asked
  obtain ⟨-, kept, -, freed, -⟩ :=
    cache_coalesces_and_never_forgets (asked ++ [.finish 1 (.ok "beta")])
  obtain ⟨-, -, -, -, -, -, -, -, -, -, -, joined⟩ := cache_coalesces_and_never_forgets
    (asked ++ [.finish 1 (.ok "beta"), .finish 0 (.error fault)])
  have loading : h.atWork? 1 = some "b" := by decide
  have running : done.atWork? 0 = some "a" := by decide
  have settled : ∀ c ∈ failed.callers, c.isPending = false := by decide
  obtain ⟨first, -, given⟩ := succeeded 1 "b" "beta" loading
  obtain ⟨-, told, next⟩ := freed 0 "a" fault running
  refine ⟨⟨loading, first, given.trans rfl, fun more => ((kept "b" "beta" first).2 more).2⟩,
    ⟨running, told.trans rfl, next [] (by simp)⟩, settled, ?_⟩
  rw [show failed.cache.stats.misses - failed.cache.stats.loads = _ from joined settled]
  decide

end Showcase.Cache.History
