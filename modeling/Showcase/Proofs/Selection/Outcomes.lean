import Mathlib.Data.List.Nodup
import Showcase.Proofs.Selection.Exchange

/-!
# Outcomes of selections

What the coherence of an exchange means for its user.  `latest_request_decides` says that nothing
but the latest request decides what is shown: a source or a fault on display is the one that the
load of that very request sent, whatever older loads send before or after it.
`awaited_iff_one_in_flight` says that no outcome is lost: a source is awaited exactly as long as
the load of the latest request is still to come back.

The second statement counts generations.  They are numbers that travel with jobs and reports, and
nothing but the way they are given out keeps them apart, so the count rests on
`Coherent.pairwise_carried`: in the order of the requests, the generations that are still to come
back increase.
-/

namespace Showcase

variable {α : Type}

namespace Exchange

/-! ## What is shown -/

/-- What is selected was asked for. -/
theorem Coherent.exists_latest {r : Registry α} {x : Exchange α} (coherent : x.Coherent r)
    (selected : x.selection.state ≠ .idle) :
    ∃ q, x.latest? = some q ∧ q.Accounts r x.selection.state := by
  cases latest : x.latest? with
  | none => exact absurd (coherent.unasked (List.getLast?_eq_none_iff.1 latest)) selected
  | some q => exact ⟨q, rfl, coherent.accounted q latest⟩

theorem Coherent.resolved_latest {r : Registry α} {x : Exchange α} (coherent : x.Coherent r)
    {q : Request α} (latest : x.latest? = some q) :
    q.load = none ↔ r.resolve? q.entry.key = none :=
  coherent.resolved q (List.mem_of_getLast? latest)

/-- In every run, what is shown is the outcome of the latest request.  A source is the text that
the load of that request sent.  A fault says that there is no loader if there is none, and else
what the load of that request sent.  Reports of older generations change nothing, and the reports
of all other requests are of older generations. -/
theorem latest_request_decides (r : Registry α) (events : List Event) :
    let x := run r events
    (∀ e text, x.selection.state = .ready e text →
      ∃ q, x.latest? = some q ∧ q.entry = e ∧ q.sent? = some (.ok text)) ∧
    (∀ e fault, x.selection.state = .failed e fault →
      ∃ q, x.latest? = some q ∧ q.entry = e ∧
        match r.resolve? e.key with
        | none => fault = .noLoader e.key (Registry.virtualPath r.base e.key)
        | some _ => ∃ cause, q.sent? = some (.error cause) ∧
            fault = .loadFailed e.title e.key cause.message) ∧
    (∀ g result, g < x.selection.generation →
      x.selection.complete g result = (.stale, x.selection)) ∧
    (∀ n report, x.report? n = some report → n + 1 < x.requests.length →
      report.generation < x.selection.generation ∧
        (x.step r (.deliver n)).selection = x.selection) := by
  intro x
  have coherent : x.Coherent r := coherent_run r events
  refine ⟨?_, ?_, ?_, ?_⟩
  · intro e text shown
    obtain ⟨q, latest, accounts⟩ := coherent.exists_latest (by simp [shown])
    rw [shown] at accounts
    obtain ⟨asked, l, started, taken⟩ := accounts
    exact ⟨q, latest, asked, by simp [Request.sent?, started, Load.sent?, taken]⟩
  · intro e fault shown
    obtain ⟨q, latest, accounts⟩ := coherent.exists_latest (by simp [shown])
    rw [shown] at accounts
    obtain ⟨rfl, ⟨missing, told⟩ | ⟨l, cause, started, taken, told⟩⟩ := accounts
    · refine ⟨q, latest, rfl, ?_⟩
      rw [(coherent.resolved_latest latest).1 missing]
      exact told
    · refine ⟨q, latest, rfl, ?_⟩
      cases found : r.resolve? q.entry.key with
      | none => simp [(coherent.resolved_latest latest).2 found] at started
      | some loader =>
          exact ⟨cause, by simp [Request.sent?, started, Load.sent?, taken], told⟩
  · intro g result older
    exact Selection.complete_of_ne (Nat.ne_of_lt older) result
  · intro n report waits earlier
    constructor
    · rw [coherent.report_generation waits, coherent.counted]
      exact earlier
    · simp only [step, waits, coherent.complete_of_earlier waits (Nat.ne_of_lt earlier)]

/-- One entry is selected twice.  The load of the first request ends last, and its text is never
shown, though the key is the same. -/
example :
    let e : Entry := { key := "alpha", title := "Alpha", category := "Basics" }
    (run ((Registry.empty "samples").put e.key ())
      [.select e, .select e, .finish 1 (.ok "new") ⟨0⟩, .deliver 1, .finish 0 (.ok "old") ⟨0⟩,
        .deliver 0]).selection.state = .ready e "new" := by
  decide

end Exchange

/-! ## What is still to come back -/

/-- What a request is still to bring back is a running load or a report that waits, never both. -/
theorem Request.carries?_cases (q : Request α) :
    (∃ job, q.running? = some job ∧ q.report? = none ∧ q.carries? = some job.generation) ∨
    (∃ report, q.running? = none ∧ q.report? = some report ∧
      q.carries? = some report.generation) ∨
    (q.running? = none ∧ q.report? = none ∧ q.carries? = none) := by
  obtain ⟨entry, load⟩ := q
  cases load with
  | none => exact Or.inr (Or.inr ⟨rfl, rfl, rfl⟩)
  | some l =>
      obtain ⟨job, phase⟩ := l
      cases phase with
      | running => exact Or.inl ⟨job, rfl, rfl, rfl⟩
      | waiting result elapsed => exact Or.inr (Or.inl ⟨_, rfl, rfl, rfl⟩)
      | taken result => exact Or.inr (Or.inr ⟨rfl, rfl, rfl⟩)

namespace Exchange

/-- Running loads and reports that wait, taken together, are the requests that are still to come
back. -/
theorem perm_carried (qs : List (Request α)) :
    List.Perm
      ((qs.filterMap Request.running?).map (·.generation) ++
        (qs.filterMap Request.report?).map (·.generation))
      (qs.filterMap Request.carries?) := by
  induction qs with
  | nil => exact .nil
  | cons q rest ih =>
      rcases q.carries?_cases with ⟨job, running, waiting, carried⟩ |
        ⟨report, running, waiting, carried⟩ | ⟨running, waiting, carried⟩
      · simpa [running, waiting, carried] using ih
      · simpa [running, waiting, carried] using
          List.perm_middle.trans (ih.cons report.generation)
      · simpa [running, waiting, carried] using ih

theorem Coherent.carried_eq {r : Registry α} {x : Exchange α} (coherent : x.Coherent r) {n g : Nat}
    {q : Request α} (asked : x.requests[n]? = some q) (carried : q.carries? = some g) :
    g = n + 1 := by
  obtain ⟨l, started, carried⟩ := Option.bind_eq_some_iff.1 carried
  rw [Load.eq_generation_of_carries? carried]
  exact coherent.numbered n q l asked started

/-- In the order of the requests, the generations that are still to come back increase. -/
theorem Coherent.pairwise_carried {r : Registry α} {x : Exchange α} (coherent : x.Coherent r) :
    (x.requests.filterMap Request.carries?).Pairwise (· < ·) := by
  rw [List.pairwise_filterMap, List.pairwise_iff_getElem]
  intro n m inside inside' before g carried g' carried'
  have first := coherent.carried_eq (List.getElem?_eq_getElem inside) carried
  have second := coherent.carried_eq (List.getElem?_eq_getElem inside') carried'
  omega

theorem Coherent.nodup_inFlight {r : Registry α} {x : Exchange α} (coherent : x.Coherent r) :
    x.inFlight.Nodup := by
  rw [inFlight, running, waiting, (perm_carried x.requests).nodup_iff]
  exact coherent.pairwise_carried.imp Nat.ne_of_lt

theorem mem_inFlight_iff {x : Exchange α} {g : Nat} :
    g ∈ x.inFlight ↔
      ∃ (n : Nat) (q : Request α), x.requests[n]? = some q ∧ q.carries? = some g := by
  rw [inFlight, running, waiting, (perm_carried x.requests).mem_iff, List.mem_filterMap]
  constructor
  · rintro ⟨q, member, carried⟩
    obtain ⟨n, asked⟩ := List.mem_iff_getElem?.1 member
    exact ⟨n, q, asked, carried⟩
  · rintro ⟨n, q, asked, carried⟩
    exact ⟨q, List.mem_of_getElem? asked, carried⟩

theorem Coherent.le_of_mem_inFlight {r : Registry α} {x : Exchange α} (coherent : x.Coherent r)
    {g : Nat} (member : g ∈ x.inFlight) : g ≤ x.selection.generation := by
  obtain ⟨n, q, asked, carried⟩ := mem_inFlight_iff.1 member
  have inside : n < x.requests.length := (List.getElem?_eq_some_iff.1 asked).1
  rw [coherent.carried_eq asked carried, coherent.counted]
  exact inside

/-- The current generation is to come back exactly while a source is awaited. -/
theorem Coherent.isLoading_iff {r : Registry α} {x : Exchange α} (coherent : x.Coherent r) :
    x.selection.state.isLoading = true ↔ x.selection.generation ∈ x.inFlight := by
  constructor
  · intro awaited
    cases state : x.selection.state with
    | loading e =>
        obtain ⟨q, latest, accounts⟩ := coherent.exists_latest (by simp [state])
        rw [state] at accounts
        obtain ⟨_, g, carried⟩ := accounts
        rw [latest?, List.getLast?_eq_getElem?] at latest
        have inside := (List.getElem?_eq_some_iff.1 latest).1
        have current : g = x.selection.generation := by
          rw [coherent.carried_eq latest carried, coherent.counted]
          omega
        rw [← current]
        exact mem_inFlight_iff.2 ⟨_, q, latest, carried⟩
    | idle => simp [state, Selection.State.isLoading] at awaited
    | ready e text => simp [state, Selection.State.isLoading] at awaited
    | failed e fault => simp [state, Selection.State.isLoading] at awaited
  · intro member
    obtain ⟨n, q, asked, carried⟩ := mem_inFlight_iff.1 member
    have newest : n + 1 = x.requests.length := by
      rw [← coherent.counted]
      exact (coherent.carried_eq asked carried).symm
    have latest : x.latest? = some q := (latest?_eq_getElem? newest).trans asked
    rw [(coherent.accounted q latest).loading_of_carries? carried]
    rfl

/-- The report of the current generation is awaited, and it puts an end to the waiting. -/
theorem Coherent.complete_current {r : Registry α} {x : Exchange α} (coherent : x.Coherent r)
    {n : Nat} {report : Report} (waits : x.report? n = some report)
    (current : report.generation = x.selection.generation) :
    x.selection.state.isLoading = true ∧
      (x.selection.complete report.generation report.result).1 ≠ .stale ∧
      (x.step r (.deliver n)).selection.state.isLoading = false := by
  have newest : n + 1 = x.requests.length := by
    rw [← coherent.counted, ← current]
    exact (coherent.report_generation waits).symm
  obtain ⟨q, l, _, _, _, _, awaited⟩ := coherent.awaits_latest waits newest
  simp only [Exchange.step, waits, current]
  cases report.result with
  | ok text =>
      rw [Selection.complete_ok awaited, awaited]
      exact ⟨rfl, by simp, rfl⟩
  | error cause =>
      rw [Selection.complete_error awaited, awaited]
      exact ⟨rfl, by simp, rfl⟩

/-- Every request started a load or was for an entry without a loader. -/
theorem Coherent.length_requests {r : Registry α} {x : Exchange α} (coherent : x.Coherent r) :
    x.requests.length =
      x.loads.length + x.requests.countP fun q => (r.resolve? q.entry.key).isNone := by
  rw [loads, List.length_filterMap_eq_countP,
    List.length_eq_countP_add_countP fun q : Request α => q.load.isSome]
  congr 1
  apply List.countP_congr
  intro q member
  simpa using coherent.resolved q member

/-- In every run, a source is awaited exactly while one running load or one report that waits
carries the current generation.  Generations are never shared, and none is ahead of the selection.
So no report of the current generation comes when none is awaited, each puts an end to the waiting,
and every selection is accounted for by a load or by a missing loader. -/
theorem awaited_iff_one_in_flight (r : Registry α) (events : List Event) :
    let x := run r events
    (x.selection.state.isLoading = true ↔ x.inFlight.count x.selection.generation = 1) ∧
    (x.selection.state.isLoading = false → x.selection.generation ∉ x.inFlight) ∧
    x.inFlight.Nodup ∧
    (∀ g ∈ x.inFlight, g ≤ x.selection.generation) ∧
    (∀ n report, x.report? n = some report → report.generation = x.selection.generation →
      x.selection.state.isLoading = true ∧
        (x.selection.complete report.generation report.result).1 ≠ .stale ∧
        (x.step r (.deliver n)).selection.state.isLoading = false) ∧
    x.selection.generation = x.requests.length ∧
    x.selection.generation =
      x.loads.length + x.requests.countP fun q => (r.resolve? q.entry.key).isNone := by
  intro x
  have coherent : x.Coherent r := coherent_run r events
  have awaited := coherent.isLoading_iff
  refine ⟨?_, ?_, coherent.nodup_inFlight, fun g => coherent.le_of_mem_inFlight, ?_,
    coherent.counted, coherent.counted.trans coherent.length_requests⟩
  · rw [awaited]
    constructor
    · exact List.count_eq_one_of_mem coherent.nodup_inFlight
    · intro one
      exact List.count_pos_iff.1 (one ▸ Nat.one_pos)
  · intro idle member
    simp [awaited.2 member] at idle
  · intro n report waits current
    exact coherent.complete_current waits current

end Exchange

end Showcase
