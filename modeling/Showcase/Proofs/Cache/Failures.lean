import Mathlib.Data.List.Induction
import Showcase.Proofs.Cache.History
import Showcase.Proofs.Fault
import Showcase.Selection.Basic

/-!
# Who is told of a failure

A loader that fails does so for everyone who waits for its key, for the call that runs it as well as
for those that joined it.  `History.FailsWith` says of a run that a call waited when a loader ended
with a fault.  It does not say what the call was told then; that is the statement about it: a call
has a fault as its result exactly when it failed so, and what it has is a copy of the fault
(`History.result?_eq_error_iff`).

All copies of a fault say the same.  So everyone is told the same, and a selection that fails on
what it was told repeats it (`Selection.complete_error_eq_failed_iff`).
-/

namespace Showcase

namespace Cache

/-- Who makes a call is not told of a failure then. -/
theorem Reply.result?_ne_error (reply : Reply) (fault : Fault) :
    reply.result? ≠ some (.error fault) := by
  cases reply with
  | hit text => simp [result?]
  | lead => simp [result?]
  | wait => simp [result?]

namespace History

/-- The result of a call, if it has one by now. -/
def result? (h : History) (m : Nat) : Option (Except Fault String) :=
  h.callers[m]?.bind (·.result?)

/-- A call was made for a key and has no result yet. -/
def Awaits (h : History) (m : Nat) (key : String) : Prop :=
  ∃ c, h.callers[m]? = some c ∧ c.key = key ∧ c.isPending = true

/-- Among some events the loader of a key ended with a fault, and a call awaited the key then. -/
def FailsWith (events : List Event) (m : Nat) (fault : Fault) : Prop :=
  ∃ earlier n later key, events = earlier ++ .finish n (.error fault) :: later ∧
    (({} : History).run earlier).atWork? n = some key ∧
    (({} : History).run earlier).Awaits m key

theorem Awaits.result?_eq_none {h : History} {m : Nat} {key : String} (awaits : h.Awaits m key) :
    h.result? m = none := by
  obtain ⟨c, called, _, pending⟩ := awaits
  simpa [result?, called, Caller.isPending] using pending

/-! ## One step -/

/-- A call that is made changes the result of no other one. -/
theorem result?_call (h : History) (key : String) (m : Nat) :
    (h.call key).result? m =
      if m = h.callers.length then (h.cache.ask key).1.result? else h.result? m := by
  unfold result? call
  split
  next newest => simp [newest]
  next other =>
    rcases Nat.lt_or_gt_of_ne other with earlier | beyond
    · rw [List.getElem?_append_left earlier]
    · rw [List.getElem?_eq_none, List.getElem?_eq_none (Nat.le_of_lt beyond)]
      rw [List.length_append, List.length_singleton]
      exact beyond

theorem result?_finish_of_awaits {h : History} {key : String} {m : Nat} (awaits : h.Awaits m key)
    (result : Except Fault String) :
    (h.finish key result).result? m = some (handOut result) := by
  obtain ⟨c, called, same, pending⟩ := awaits
  simp [result?, finish, called, Caller.hear, same, pending]

theorem result?_finish_of_not_awaits {h : History} {key : String} {m : Nat}
    (other : ¬ h.Awaits m key) (result : Except Fault String) :
    (h.finish key result).result? m = h.result? m := by
  simp only [result?, finish, List.getElem?_map]
  cases called : h.callers[m]? with
  | none => rfl
  | some c =>
      have deaf : ¬ (c.key = key ∧ c.isPending = true) := fun heard => other ⟨c, called, heard⟩
      rw [Option.map_some, Caller.hear, if_neg deaf]

/-- Whoever has a result keeps it. -/
theorem result?_step {h : History} {m : Nat} {result : Except Fault String}
    (known : h.result? m = some result) (event : Event) :
    (h.step event).result? m = some result := by
  cases event with
  | call key =>
      -- The call that is made is a new one, and `m` has a result already.
      have made : m ≠ h.callers.length := by
        rintro rfl
        simp [result?] at known
      rw [step, result?_call, if_neg made, known]
  | finish n ending =>
      rw [step]
      split
      next key atWork =>
        have answered : ¬ h.Awaits m key := by
          intro awaits
          rw [awaits.result?_eq_none] at known
          cases known
        rw [result?_finish_of_not_awaits answered, known]
      next nothing => exact known

/-- Whoever is told of a failure in a step has awaited the key whose loader ended with it. -/
theorem failed_of_result?_step {h : History} {m : Nat} {event : Event} {got : Fault}
    (unknown : h.result? m = none) (told : (h.step event).result? m = some (.error got)) :
    ∃ n key fault, event = .finish n (.error fault) ∧ h.atWork? n = some key ∧ h.Awaits m key ∧
      got = fault.shared := by
  cases event with
  | call key =>
      rw [step, result?_call] at told
      split at told
      next newest => exact absurd told (Reply.result?_ne_error _ _)
      next other =>
        rw [unknown] at told
        cases told
  | finish n ending =>
      rw [step] at told
      split at told
      next key atWork =>
        by_cases awaits : h.Awaits m key
        · rw [result?_finish_of_awaits awaits] at told
          cases ending with
          | ok text => cases told
          | error fault =>
              cases told
              exact ⟨n, key, fault, rfl, atWork, awaits, rfl⟩
        · rw [result?_finish_of_not_awaits awaits, unknown] at told
          cases told
      next nothing =>
        rw [unknown] at told
        cases told

/-! ## Every run -/

theorem result?_run {h : History} {m : Nat} {result : Except Fault String}
    (known : h.result? m = some result) (events : List Event) :
    (h.run events).result? m = some result :=
  run_induction (P := fun h => h.result? m = some result)
    (fun _ event known => result?_step known event) known events

theorem FailsWith.concat {events : List Event} {m : Nat} {fault : Fault}
    (fails : FailsWith events m fault) (event : Event) :
    FailsWith (events ++ [event]) m fault := by
  obtain ⟨earlier, n, later, key, rfl, atWork, awaits⟩ := fails
  exact ⟨earlier, n, later ++ [event], key, by simp, atWork, awaits⟩

/-- Who failed has a copy of the fault from then on. -/
theorem FailsWith.result?_eq {events : List Event} {m : Nat} {fault : Fault}
    (fails : FailsWith events m fault) :
    (({} : History).run events).result? m = some (.error fault.shared) := by
  obtain ⟨earlier, n, later, key, rfl, atWork, awaits⟩ := fails
  rw [run_append, run_cons]
  apply result?_run
  rw [step_finish atWork]
  exact result?_finish_of_awaits awaits (.error fault)

/-- A call has a fault as its result exactly when it failed, and then it has a copy. -/
theorem result?_eq_error_iff {events : List Event} {m : Nat} {got : Fault} :
    (({} : History).run events).result? m = some (.error got) ↔
      ∃ fault, FailsWith events m fault ∧ got = fault.shared := by
  constructor
  · intro told
    -- The last event told the call, or it was told before and has kept what it has.
    induction events using List.reverseRecOn with
    | nil => simp [run, result?] at told
    | append_singleton events event induction =>
        rw [run_concat] at told
        cases known : (({} : History).run events).result? m with
        | some result =>
            obtain rfl : result = .error got := by
              rw [result?_step known event] at told
              exact Option.some.inj told
            obtain ⟨fault, fails, copied⟩ := induction known
            exact ⟨fault, fails.concat event, copied⟩
        | none =>
            obtain ⟨n, key, fault, rfl, atWork, awaits, copied⟩ := failed_of_result?_step known told
            exact ⟨fault, ⟨events, n, [], key, rfl, atWork, awaits⟩, copied⟩
  · rintro ⟨fault, fails, rfl⟩
    exact fails.result?_eq

end History

end Cache

/-! ## What is shown -/

/-- A selection fails on a fault exactly while it awaits the report, and then it names the entry and
repeats the message. -/
theorem Selection.complete_error_eq_failed_iff {s failed : Selection} {g : Nat} {cause : Fault} :
    s.complete g (.error cause) = (.failed, failed) ↔
      g = s.generation ∧ ∃ e, s.state = .loading e ∧
        failed = { s with state := .failed e (.loadFailed e.title e.key cause.message) } := by
  constructor
  · intro completed
    rcases s.complete_cases g (.error cause) with ⟨_, stale⟩ | ⟨e, text, _, _, same, _⟩ |
      ⟨e, cause', current, awaited, same, shown⟩
    · rw [stale] at completed
      cases completed
    · cases same
    · cases same
      rw [shown] at completed
      cases completed
      exact ⟨current, e, awaited, rfl⟩
  · rintro ⟨rfl, e, awaited, rfl⟩
    exact complete_error awaited cause

namespace Cache.History

/-- A fault is copied without changing what the reader and the program see of it, but for the
faults of the readers of the two formats, all of whose copies are the same `other` fault.  So in
every run, with calls and ends of loaders in any order, those to whom a failure is handed out, the
call that ran the loader and those that joined it, are told the same words, and a selection that
fails on what they were given, copied any number of times more, names its entry and gives these
words as the reason. -/
theorem a_failure_is_told_in_the_same_words :
    (∀ fault : Fault, fault.isUnreadable = false →
      fault.heard = fault.message ∧ ∀ n, (Fault.shared^[n] fault).Resembles fault) ∧
    (∀ detail n,
      Fault.shared^[n + 1] (.unreadableToml detail) = .other ("Config error: " ++ detail) ∧
      (Fault.other ("Config error: " ++ detail)).message =
        "Unexpected error: Config error: " ++ detail ∧
      Fault.shared^[n + 1] (.unreadableJson detail) = .other ("Serde error: " ++ detail) ∧
      (Fault.other ("Serde error: " ++ detail)).message =
        "Unexpected error: Serde error: " ++ detail) ∧
    ∀ events,
      let h := ({} : History).run events
      (∀ n key, h.atWork? n = some key → h.Awaits n key) ∧
      (∀ m got, h.result? m = some (.error got) ↔
        ∃ fault, FailsWith events m fault ∧ got = fault.shared) ∧
      ∀ m fault, FailsWith events m fault →
        ∃ got, h.result? m = some (.error got) ∧ got.message = fault.heard ∧
          ∀ (n : Nat) (s failed : Selection) (g : Nat),
            s.complete g (.error (Fault.shared^[n] got)) = (.failed, failed) ↔
              g = s.generation ∧ ∃ e, s.state = .loading e ∧
                failed = { s with state := .failed e (.loadFailed e.title e.key fault.heard) } := by
  refine ⟨fun fault readable => ⟨?_, Fault.resembles_iterate readable⟩, fun detail n => ?_,
    fun events => ⟨fun n key => exists_pending_of_atWork?, fun m got => result?_eq_error_iff, ?_⟩⟩
  · rw [← fault.message_shared]
    exact (Fault.resembles_shared readable).message
  · exact ⟨Fault.iterate_shared _ n, Fault.message_other_append _ detail,
      Fault.iterate_shared _ n, Fault.message_other_append _ detail⟩
  · intro m fault fails
    refine ⟨fault.shared, fails.result?_eq, fault.message_shared, fun n s failed g => ?_⟩
    have copied : Fault.shared^[n] fault.shared = fault.shared :=
      Function.iterate_fixed fault.shared_shared n
    rw [copied, Selection.complete_error_eq_failed_iff, fault.message_shared]

/-- Two ask for one file, and it may not be read. -/
theorem forbidden_file_is_told_of_twice :
    let fault : Fault := .disk (.system 13)
    let words := "I/O error: Permission denied (os error 13)"
    let asked : List Event := [.call "a", .call "a"]
    let events := asked ++ [.finish 0 (.error fault)]
    let e : Entry := { key := "a", title := "Alpha", category := "Basics", description := "first" }
    (fault.isUnreadable = false ∧ (Fault.shared^[2] fault).message = words) ∧
    (({} : History).run asked).atWork? 0 = some "a" ∧
    FailsWith events 0 fault ∧ FailsWith events 1 fault ∧
    ∃ got, (({} : History).run events).result? 1 = some (.error got) ∧ got.message = words ∧
      (⟨.loading e, 4⟩ : Selection).complete 4 (.error got) =
        (.failed, ⟨.failed e (.loadFailed "Alpha" "a" words), 4⟩) := by
  intro fault words asked events e
  obtain ⟨kept, -, told⟩ := a_failure_is_told_in_the_same_words
  have said : fault.message = words := by decide
  have readable : fault.isUnreadable = false := rfl
  obtain ⟨heard, copies⟩ := kept fault readable
  have running : (({} : History).run asked).atWork? 0 = some "a" := by decide
  have leader := (told asked).1 0 "a" running
  have joined : (({} : History).run asked).Awaits 1 "a" := ⟨_, rfl, rfl, rfl⟩
  have fails : FailsWith events 1 fault := ⟨asked, 0, [], "a", rfl, running, joined⟩
  obtain ⟨got, given, message, shown⟩ := (told events).2.2 1 fault fails
  rw [heard, said] at message shown
  exact ⟨⟨readable, (copies 2).message.trans said⟩, running,
    ⟨asked, 0, [], "a", rfl, running, leader⟩, fails, got, given, message,
    (shown 0 _ _ 4).2 ⟨rfl, e, rfl, rfl⟩⟩

end Cache.History

end Showcase
