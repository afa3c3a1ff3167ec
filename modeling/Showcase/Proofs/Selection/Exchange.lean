import Mathlib.Data.List.Basic
import Showcase.Selection.Basic

/-!
# The exchange between a selection and its loads

A selection asks for loads and takes their reports.  Loads are never stopped, so any number of them
can be under way, and their reports can be taken in any order.  An `Exchange` is the selection
together with every request it has made.  A request has the entry that was asked for and the load
that was started for it, and the load says how far it has come: it runs, its report waits, or its
report has been taken.

Five things can happen, at any moment and in any order: an entry is selected, a failed one is tried
again, what is shown is closed, a running load ends with any result at all, and a report that waits
is taken.  `Exchange.run` performs a list of them.  The selection itself does not see the requests;
it sees only the generation that a report carries.

`Coherent` is what every run keeps: a load carries the number of its request, and the state of the
selection is accounted for by the latest request alone (`Request.Accounts`).
-/

namespace Showcase

/-! ## Loads and requests -/

/-- How far a load has come. -/
inductive Load.Phase where
  /-- It runs. -/
  | running
  /-- It is over, and its report waits. -/
  | waiting (result : Except Fault String) (elapsed : Duration)
  /-- Its report has been taken. -/
  | taken (result : Except Fault String)

/-- A load that was started. -/
structure Load (α : Type) where
  /-- What was started. -/
  job : Job α
  /-- How far it has come. -/
  phase : Load.Phase := .running

/-- A request of the selection. -/
structure Request (α : Type) where
  /-- The entry that was asked for. -/
  entry : Entry
  /-- The load that was started, if there was a loader. -/
  load : Option (Load α)

variable {α : Type}

namespace Load

/-- The job, while the load runs. -/
def running? (l : Load α) : Option (Job α) :=
  match l.phase with
  | .running => some l.job
  | _ => none

/-- The report that waits. -/
def report? (l : Load α) : Option Report :=
  match l.phase with
  | .waiting result elapsed => some ⟨l.job.generation, l.job.key, result, elapsed⟩
  | _ => none

/-- What the load has sent, taken or not. -/
def sent? (l : Load α) : Option (Except Fault String) :=
  match l.phase with
  | .running => none
  | .waiting result _ | .taken result => some result

/-- The generation that is still to come back: the job carries it while the load runs, and the
report carries it while it waits. -/
def carries? (l : Load α) : Option Nat :=
  match l.phase with
  | .running => some l.job.generation
  | .waiting _ _ => l.report?.map (·.generation)
  | .taken _ => none

/-- A running load ends. -/
def finish (l : Load α) (result : Except Fault String) (elapsed : Duration) : Load α :=
  match l.phase with
  | .running => { l with phase := .waiting result elapsed }
  | _ => l

/-- The report that waits is taken. -/
def take (l : Load α) : Load α :=
  match l.phase with
  | .waiting result _ => { l with phase := .taken result }
  | _ => l

end Load

namespace Request

/-- The job of a request, while its load runs. -/
def running? (q : Request α) : Option (Job α) := q.load.bind Load.running?

/-- The report that waits. -/
def report? (q : Request α) : Option Report := q.load.bind Load.report?

/-- What the load of a request has sent. -/
def sent? (q : Request α) : Option (Except Fault String) := q.load.bind Load.sent?

/-- The generation that is still to come back. -/
def carries? (q : Request α) : Option Nat := q.load.bind Load.carries?

/-- The request with its load changed. -/
def mapLoad (f : Load α → Load α) (q : Request α) : Request α := { q with load := q.load.map f }

end Request

/-! ## The exchange -/

/-- A selection and the requests it has made. -/
structure Exchange (α : Type) where
  /-- The selection. -/
  selection : Selection := {}
  /-- The requests, the first one first. -/
  requests : List (Request α) := []

namespace Exchange

/-- Something that happens.  Requests are named by the number of requests before them. -/
inductive Event where
  /-- An entry is selected. -/
  | select (e : Entry)
  /-- The entry whose fault is shown is selected once more. -/
  | retry
  /-- The source or the fault that is shown is closed. -/
  | dismiss
  /-- The load of a request ends. -/
  | finish (n : Nat) (result : Except Fault String) (elapsed : Duration)
  /-- The report of a request is handed to the selection. -/
  | deliver (n : Nat)

/-- Writes down a request for an entry and what the selection made of it. -/
def ask (x : Exchange α) (e : Entry) (answer : Selection × Option (Job α)) : Exchange α :=
  { selection := answer.1, requests := x.requests ++ [⟨e, answer.2.map ({ job := · })⟩] }

/-- The exchange with the load of one request changed. -/
def change (x : Exchange α) (n : Nat) (f : Load α → Load α) : Exchange α :=
  { x with requests := x.requests.modify n (Request.mapLoad f) }

/-- The report of a request, if it waits. -/
def report? (x : Exchange α) (n : Nat) : Option Report := x.requests[n]?.bind Request.report?

/-- The exchange after something has happened.  What cannot happen changes nothing. -/
def step (r : Registry α) (x : Exchange α) : Event → Exchange α
  | .select e => x.ask e (x.selection.select r e)
  | .retry =>
    match x.selection.state.entry?, x.selection.retry? r with
    | some e, some answer => x.ask e answer
    | _, _ => x
  | .dismiss => { x with selection := x.selection.dismiss?.getD x.selection }
  | .finish n result elapsed => x.change n (·.finish result elapsed)
  | .deliver n =>
    match x.report? n with
    | some report =>
      { x.change n Load.take with
        selection := (x.selection.complete report.generation report.result).2 }
    | none => x

/-- The exchange after a list of events, from the start. -/
def run (r : Registry α) (events : List Event) : Exchange α := events.foldl (step r) {}

/-- The latest request. -/
def latest? (x : Exchange α) : Option (Request α) := x.requests.getLast?

/-- Every load that was ever started. -/
def loads (x : Exchange α) : List (Load α) := x.requests.filterMap (·.load)

/-- The jobs of the loads that run. -/
def running (x : Exchange α) : List (Job α) := x.requests.filterMap Request.running?

/-- The reports that wait. -/
def waiting (x : Exchange α) : List Report := x.requests.filterMap Request.report?

/-- The generations that are still to come back, of running loads and of reports that wait. -/
def inFlight (x : Exchange α) : List Nat :=
  x.running.map (·.generation) ++ x.waiting.map (·.generation)

/-- What holds at the start and is kept by every step holds after every run. -/
theorem run_induction {r : Registry α} {P : Exchange α → Prop} (start : P {})
    (kept : ∀ x event, P x → P (x.step r event)) (events : List Event) : P (run r events) := by
  unfold run
  apply List.foldlRecOn events (step r) start
  intro x holds event _
  exact kept x event holds

end Exchange

/-! ## Phases of a load -/

namespace Load

@[simp] theorem job_finish (l : Load α) (result : Except Fault String) (elapsed : Duration) :
    (l.finish result elapsed).job = l.job := by
  unfold finish
  split <;> rfl

@[simp] theorem job_take (l : Load α) : l.take.job = l.job := by
  unfold take
  split <;> rfl

/-- An ended load carries the same generation as before: its report has it now. -/
@[simp] theorem carries?_finish (l : Load α) (result : Except Fault String) (elapsed : Duration) :
    (l.finish result elapsed).carries? = l.carries? := by
  obtain ⟨job, phase⟩ := l
  cases phase <;> rfl

theorem finish_of_taken {l : Load α} {sent : Except Fault String} (taken : l.phase = .taken sent)
    (result : Except Fault String) (elapsed : Duration) : l.finish result elapsed = l := by
  simp [finish, taken]

/-- Only the generation of the job can come back. -/
theorem eq_generation_of_carries? {l : Load α} {g : Nat} (carried : l.carries? = some g) :
    g = l.job.generation := by
  obtain ⟨job, phase⟩ := l
  cases phase with
  | running => simpa [carries?, eq_comm] using carried
  | waiting result elapsed => simpa [carries?, report?, eq_comm] using carried
  | taken result => simp [carries?] at carried

/-- A report that waits is that of the job, and it is still to come back. -/
theorem report?_eq_some_iff {l : Load α} {report : Report} :
    l.report? = some report ↔
      l.phase = .waiting report.result report.elapsed ∧ report.generation = l.job.generation ∧
        report.key = l.job.key := by
  obtain ⟨job, phase⟩ := l
  obtain ⟨generation, key, result, elapsed⟩ := report
  cases phase with
  | running => simp [report?]
  | waiting sent took => simp [report?]; tauto
  | taken sent => simp [report?]

theorem phase_take {l : Load α} {report : Report} (waits : l.report? = some report) :
    l.take.phase = .taken report.result := by
  simp [take, (report?_eq_some_iff.1 waits).1]

end Load

/-! ## The invariant -/

namespace Request

/-- The state of a selection is accounted for by its latest request: while a source is on its way
the load of the request is still to come back, and what is shown is what that load sent. -/
def Accounts (r : Registry α) (q : Request α) : Selection.State → Prop
  | .idle => q.carries? = none
  | .loading e => q.entry = e ∧ ∃ g, q.carries? = some g
  | .ready e text => q.entry = e ∧ ∃ l, q.load = some l ∧ l.phase = .taken (.ok text)
  | .failed e fault =>
    q.entry = e ∧
      (q.load = none ∧ fault = .noLoader e.key (r.place e.key) ∨
        ∃ l cause, q.load = some l ∧ l.phase = .taken (.error cause) ∧
          fault = Selection.loadFault e cause)

@[simp] theorem entry_mapLoad (f : Load α → Load α) (q : Request α) :
    (q.mapLoad f).entry = q.entry := rfl

@[simp] theorem load_mapLoad (f : Load α → Load α) (q : Request α) :
    (q.mapLoad f).load = q.load.map f := rfl

/-- Only a load that is still to come back keeps a selection waiting. -/
theorem Accounts.loading_of_carries? {r : Registry α} {q : Request α} {state : Selection.State}
    {g : Nat} (accounts : q.Accounts r state) (carried : q.carries? = some g) :
    state = .loading q.entry := by
  cases state with
  | idle => simp [Accounts, carried] at accounts
  | loading e => rw [accounts.1]
  | ready e text =>
      obtain ⟨_, l, started, taken⟩ := accounts
      simp [carries?, started, Load.carries?, taken] at carried
  | failed e fault =>
      obtain ⟨_, ⟨missing, _⟩ | ⟨l, cause, started, taken, _⟩⟩ := accounts
      · simp [carries?, missing] at carried
      · simp [carries?, started, Load.carries?, taken] at carried

/-- The end of a load does not concern the selection. -/
theorem Accounts.finish {r : Registry α} {q : Request α} {state : Selection.State}
    (accounts : q.Accounts r state) (result : Except Fault String) (elapsed : Duration) :
    (q.mapLoad (·.finish result elapsed)).Accounts r state := by
  have carried : (q.mapLoad (·.finish result elapsed)).carries? = q.carries? := by
    cases h : q.load <;> simp [carries?, h]
  cases state with
  | idle => simpa only [Accounts, carried] using accounts
  | loading e => simpa only [Accounts, carried, entry_mapLoad] using accounts
  | ready e text =>
      obtain ⟨asked, l, started, taken⟩ := accounts
      exact ⟨asked, l, by simp [started, Load.finish_of_taken taken], taken⟩
  | failed e fault =>
      obtain ⟨asked, ⟨missing, told⟩ | ⟨l, cause, started, taken, told⟩⟩ := accounts
      · exact ⟨asked, Or.inl ⟨by simp [missing], told⟩⟩
      · exact ⟨asked, Or.inr ⟨l, cause, by simp [started, Load.finish_of_taken taken], taken,
          told⟩⟩

end Request

namespace Exchange

/-- What every run keeps. -/
structure Coherent (r : Registry α) (x : Exchange α) : Prop where
  /-- The generation of the selection is the number of its requests. -/
  counted : x.selection.generation = x.requests.length
  /-- A load carries the number of its request. -/
  numbered : ∀ n q l, x.requests[n]? = some q → q.load = some l → l.job.generation = n + 1
  /-- A load was started for a request unless there was no loader. -/
  resolved : ∀ q ∈ x.requests, q.load = none ↔ r.resolve? q.entry.key = none
  /-- Nothing is selected before the first request. -/
  unasked : x.requests = [] → x.selection.state = .idle
  /-- The latest request accounts for the state of the selection. -/
  accounted : ∀ q, x.latest? = some q → q.Accounts r x.selection.state

theorem coherent_start (r : Registry α) : Coherent r ({} : Exchange α) where
  counted := rfl
  numbered := by simp
  resolved := by simp
  unasked := fun _ => rfl
  accounted := by simp [latest?]

/-! ### One change to one load -/

theorem getElem?_change (x : Exchange α) (n m : Nat) (f : Load α → Load α) :
    (x.change n f).requests[m]? =
      if n = m then x.requests[m]?.map (Request.mapLoad f) else x.requests[m]? := by
  simp only [change, List.getElem?_modify]
  split <;> simp

theorem latest?_change (x : Exchange α) (n : Nat) (f : Load α → Load α) :
    (x.change n f).latest? =
      if n + 1 = x.requests.length then x.latest?.map (Request.mapLoad f) else x.latest? := by
  have same : (x.change n f).requests.length = x.requests.length := List.length_modify ..
  simp only [latest?, List.getLast?_eq_getElem?, same, getElem?_change]
  cases number : x.requests.length with
  | zero => simp [List.length_eq_zero_iff.1 number]
  | succ k => simp only [Nat.add_sub_cancel, Nat.add_right_cancel_iff]

/-- A changed exchange has the requests it had, but for the load that was changed. -/
theorem eq_of_getElem?_change {x : Exchange α} {n m : Nat} {f : Load α → Load α} {q : Request α}
    (asked : (x.change n f).requests[m]? = some q) :
    ∃ before, x.requests[m]? = some before ∧ (q = before ∨ q = before.mapLoad f) := by
  rw [getElem?_change] at asked
  split at asked
  next same =>
    obtain ⟨before, known, rfl⟩ := Option.map_eq_some_iff.1 asked
    exact ⟨before, known, Or.inr rfl⟩
  next different => exact ⟨q, asked, Or.inl rfl⟩

/-- A change of a load that keeps its job keeps what is known of the requests. -/
theorem Coherent.change {r : Registry α} {x : Exchange α} (coherent : x.Coherent r) {n : Nat}
    {f : Load α → Load α} (keepsJob : ∀ l, (f l).job = l.job) {s : Selection}
    (counted : s.generation = x.selection.generation)
    (unasked : x.requests = [] → s.state = .idle)
    (accounted : ∀ q, (x.change n f).latest? = some q → q.Accounts r s.state) :
    Coherent r { x.change n f with selection := s } where
  counted := by
    rw [counted, coherent.counted]
    exact (List.length_modify ..).symm
  numbered := by
    intro m q l asked started
    obtain ⟨before, known, rfl | rfl⟩ := eq_of_getElem?_change asked
    · exact coherent.numbered m q l known started
    · obtain ⟨l, running, rfl⟩ := Option.map_eq_some_iff.1 started
      rw [keepsJob]
      exact coherent.numbered m before l known running
  resolved := by
    intro q member
    obtain ⟨m, asked⟩ := List.mem_iff_getElem?.1 member
    obtain ⟨before, known, rfl | rfl⟩ := eq_of_getElem?_change asked
    · exact coherent.resolved q (List.mem_of_getElem? known)
    · simpa using coherent.resolved before (List.mem_of_getElem? known)
  unasked := by
    intro empty
    apply unasked
    simpa [Exchange.change] using empty
  accounted := accounted

/-! ### The steps -/

/-- A new request keeps what is known if the selection numbers it and answers for it. -/
theorem Coherent.ask {r : Registry α} {x : Exchange α} (coherent : x.Coherent r) {e : Entry}
    {answer : Selection × Option (Job α)}
    (counted : answer.1.generation = x.selection.generation + 1)
    (numbered : ∀ job, answer.2 = some job → job.generation = x.selection.generation + 1)
    (resolved : answer.2 = none ↔ r.resolve? e.key = none)
    (accounted : Request.Accounts r ⟨e, answer.2.map ({ job := · })⟩ answer.1.state) :
    Coherent r (x.ask e answer) where
  counted := by simp [Exchange.ask, counted, coherent.counted]
  numbered := by
    intro n q l asked started
    rw [Exchange.ask, List.getElem?_append] at asked
    split at asked
    next earlier => exact coherent.numbered n q l asked started
    next newest =>
      obtain ⟨rfl, here⟩ : q = ⟨e, answer.2.map ({ job := · })⟩ ∧ n = x.requests.length := by
        rw [List.getElem?_singleton] at asked
        split at asked
        next zero => exact ⟨(Option.some.inj asked).symm, by omega⟩
        next beyond => cases asked
      obtain ⟨job, wanted, rfl⟩ := Option.map_eq_some_iff.1 started
      rw [here, ← coherent.counted]
      exact numbered job wanted
  resolved := by
    intro q member
    rcases List.mem_append.1 member with earlier | newest
    · exact coherent.resolved q earlier
    · rw [List.mem_singleton] at newest
      subst newest
      simpa using resolved
  unasked := by simp [Exchange.ask]
  accounted := by
    intro q latest
    have : q = ⟨e, answer.2.map ({ job := · })⟩ := by
      simpa [latest?, Exchange.ask, eq_comm] using latest
    rw [this]
    exact accounted

theorem Coherent.select {r : Registry α} {x : Exchange α} (coherent : x.Coherent r) (e : Entry) :
    Coherent r (x.ask e (x.selection.select r e)) := by
  cases found : r.resolve? e.key with
  | none =>
      rw [x.selection.select_of_no_loader found]
      exact coherent.ask rfl (by simp) (by simp [found]) ⟨rfl, Or.inl ⟨rfl, rfl⟩⟩
  | some loader =>
      rw [x.selection.select_of_loader found]
      exact coherent.ask rfl (by simp) (by simp [found]) ⟨rfl, _, rfl⟩

theorem Coherent.retry {r : Registry α} {x : Exchange α} (coherent : x.Coherent r) :
    (x.step r .retry).Coherent r := by
  simp only [step]
  split
  next e answer shown tried =>
    obtain ⟨failed, fault, state, rfl⟩ := Selection.retry?_eq_some_iff.1 tried
    obtain rfl : failed = e := by
      rw [state] at shown
      exact Option.some.inj shown
    exact coherent.select failed
  next nothing => exact coherent

/-- A source on its way cannot be closed, so what is closed is not to come back. -/
theorem Coherent.dismiss {r : Registry α} {x : Exchange α} (coherent : x.Coherent r) :
    (x.step r .dismiss).Coherent r := by
  simp only [step, Selection.dismiss?_getD]
  split
  next awaited => exact coherent
  next shown =>
    refine ⟨coherent.counted, coherent.numbered, coherent.resolved, fun _ => rfl, ?_⟩
    intro q latest
    show q.carries? = none
    by_contra carried
    obtain ⟨g, carried⟩ := Option.ne_none_iff_exists'.1 carried
    have awaited := (coherent.accounted q latest).loading_of_carries? carried
    simp [awaited, Selection.State.isLoading] at shown

theorem Coherent.finish {r : Registry α} {x : Exchange α} (coherent : x.Coherent r) (n : Nat)
    (result : Except Fault String) (elapsed : Duration) :
    (x.step r (.finish n result elapsed)).Coherent r := by
  refine coherent.change (fun l => l.job_finish result elapsed) rfl coherent.unasked ?_
  intro q latest
  rw [latest?_change] at latest
  split at latest
  next newest =>
    obtain ⟨before, known, rfl⟩ := Option.map_eq_some_iff.1 latest
    exact (coherent.accounted before known).finish result elapsed
  next earlier => exact coherent.accounted q latest

/-- A report that waits carries the number of its request. -/
theorem Coherent.report_generation {r : Registry α} {x : Exchange α} (coherent : x.Coherent r)
    {n : Nat} {report : Report} (waits : x.report? n = some report) :
    report.generation = n + 1 := by
  obtain ⟨q, asked, waits⟩ := Option.bind_eq_some_iff.1 waits
  obtain ⟨l, started, waits⟩ := Option.bind_eq_some_iff.1 waits
  rw [(Load.report?_eq_some_iff.1 waits).2.1]
  exact coherent.numbered n q l asked started

theorem latest?_eq_getElem? {x : Exchange α} {n : Nat} (newest : n + 1 = x.requests.length) :
    x.latest? = x.requests[n]? := by
  rw [latest?, List.getLast?_eq_getElem?, ← newest, Nat.add_sub_cancel]

/-- The report of an earlier request leaves the selection as it is. -/
theorem Coherent.complete_of_earlier {r : Registry α} {x : Exchange α} (coherent : x.Coherent r)
    {n : Nat} {report : Report} (waits : x.report? n = some report)
    (earlier : n + 1 ≠ x.requests.length) :
    x.selection.complete report.generation report.result = (.stale, x.selection) := by
  apply Selection.complete_of_ne
  rw [coherent.report_generation waits, coherent.counted]
  exact earlier

/-- While the report of the latest request waits, so does the selection. -/
theorem Coherent.awaits_latest {r : Registry α} {x : Exchange α} (coherent : x.Coherent r)
    {n : Nat} {report : Report} (waits : x.report? n = some report)
    (newest : n + 1 = x.requests.length) :
    ∃ q l, x.latest? = some q ∧ q.load = some l ∧ l.report? = some report ∧
      report.generation = x.selection.generation ∧ x.selection.state = .loading q.entry := by
  have generation := coherent.report_generation waits
  obtain ⟨q, asked, waits⟩ := Option.bind_eq_some_iff.1 waits
  obtain ⟨l, started, waits⟩ := Option.bind_eq_some_iff.1 waits
  have latest : x.latest? = some q := (latest?_eq_getElem? newest).trans asked
  have carried : q.carries? = some report.generation := by
    simp [Request.carries?, started, Load.carries?, (Load.report?_eq_some_iff.1 waits).1, waits]
  refine ⟨q, l, latest, started, waits, ?_, ?_⟩
  · rw [generation, newest, coherent.counted]
  · exact (coherent.accounted q latest).loading_of_carries? carried

/-- What the selection makes of the report of the latest request is what the load sent. -/
theorem Coherent.accounts_complete {r : Registry α} {x : Exchange α} (coherent : x.Coherent r)
    {n : Nat} {report : Report} (waits : x.report? n = some report)
    (newest : n + 1 = x.requests.length) {q : Request α}
    (latest : (x.change n Load.take).latest? = some q) :
    q.Accounts r (x.selection.complete report.generation report.result).2.state := by
  obtain ⟨before, l, known, started, waits, current, awaited⟩ :=
    coherent.awaits_latest waits newest
  obtain rfl : before.mapLoad Load.take = q := by
    simpa [latest?_change, newest, known] using latest
  have taken : l.take.phase = .taken report.result := Load.phase_take waits
  rw [current]
  cases sent : report.result with
  | ok text =>
      rw [Selection.complete_ok awaited]
      exact ⟨rfl, l.take, by simp [started], by rw [taken, sent]⟩
  | error cause =>
      rw [Selection.complete_error awaited]
      exact ⟨rfl, Or.inr ⟨l.take, cause, by simp [started], by rw [taken, sent], rfl⟩⟩

theorem Coherent.deliver {r : Registry α} {x : Exchange α} (coherent : x.Coherent r) (n : Nat) :
    (x.step r (.deliver n)).Coherent r := by
  simp only [step]
  split
  next report waits =>
    by_cases newest : n + 1 = x.requests.length
    · apply coherent.change Load.job_take
      · exact Selection.complete_generation ..
      · intro empty
        simp [empty] at newest
      · intro q latest
        exact coherent.accounts_complete waits newest latest
    · rw [coherent.complete_of_earlier waits newest]
      apply coherent.change Load.job_take rfl coherent.unasked
      intro q latest
      rw [latest?_change, if_neg newest] at latest
      exact coherent.accounted q latest
  next nothing => exact coherent

/-- Every step keeps the exchange coherent. -/
theorem Coherent.step {r : Registry α} {x : Exchange α} (coherent : x.Coherent r)
    (event : Event) : (x.step r event).Coherent r := by
  cases event with
  | select e => exact coherent.select e
  | retry => exact coherent.retry
  | dismiss => exact coherent.dismiss
  | finish n result elapsed => exact coherent.finish n result elapsed
  | deliver n => exact coherent.deliver n

/-- Every run is coherent. -/
theorem coherent_run (r : Registry α) (events : List Event) : (run r events).Coherent r :=
  run_induction (coherent_start r) (fun _ event coherent => coherent.step event) events

end Exchange

end Showcase
