import Mathlib.Data.List.Nodup
import Showcase.Selection.Traffic

/-!
# Loads in time

A load that was started reports once, when its loader is done or its time is up.  Three statements
build on each other.

*One load.*  While it runs, its loader is asked before the clock (`Course.asked?`).  The ending that
is computed when it starts is what it says the first time it says anything
(`Course.first_asked?_ending`).

*Traffic.*  Whatever happens, the runs that were begun are those whose reports were taken, those
whose reports wait and those under way (`Traffic.Keeps`).  A run is under way only before it is due,
and the reports that wait are in the order in which their runs were due (`Traffic.InTime`).

*A selection in time.*  A `Service` is a selection with its traffic.  Loads that were asked for are
held until they are released, so any number of them can be started together, and each goes as it
likes.  Their generations increase, so no report can be mistaken for another one
(`Service.Numbered`).

Main statement: `Service.each_load_reports_once_in_time`.
-/

namespace Showcase

/-! ## One load -/

namespace Course

/-- What a run of a loader says if it is asked so many nanoseconds after its start. -/
def answer? (elapsed : Nat) : Course → Option (Except Fault String)
  | .atOnce result => some result
  | .after delay result => if delay.nanos ≤ elapsed then some result else none
  | .never => none

/-- What a load says if it is asked: the loader is asked first, and then whether the time is up. -/
def asked? (key : String) (limit : Duration) (elapsed : Nat) (c : Course) :
    Option (Except Fault String) :=
  match c.answer? elapsed with
  | some result => some result
  | none => if limit.nanos ≤ elapsed then some (timeUp key limit) else none

/-- How long after its start a load ends, and with what. -/
inductive Ends (key : String) (limit : Duration) :
    Course → Duration → Except Fault String → Prop where
  /-- The loader is done without waiting. -/
  | atOnce (result : Except Fault String) : Ends key limit (.atOnce result) ⟨0⟩ result
  /-- The loader is done in time, or at the very limit. -/
  | inTime {delay : Duration} (result : Except Fault String) (early : delay.nanos ≤ limit.nanos) :
      Ends key limit (.after delay result) delay result
  /-- The loader would be done too late. -/
  | late {delay : Duration} (result : Except Fault String) (late : limit.nanos < delay.nanos) :
      Ends key limit (.after delay result) limit
        (.error (.loadTimedOut key (min limit.millis 0xFFFFFFFFFFFFFFFF)))
  /-- The loader would never be done. -/
  | never : Ends key limit .never limit
      (.error (.loadTimedOut key (min limit.millis 0xFFFFFFFFFFFFFFFF)))

theorem ending_of_early {key : String} {limit delay : Duration}
    (early : delay.nanos ≤ limit.nanos) (result : Except Fault String) :
    (Course.after delay result).ending key limit = (delay, result) := if_pos early

theorem ending_of_late {key : String} {limit delay : Duration}
    (late : limit.nanos < delay.nanos) (result : Except Fault String) :
    (Course.after delay result).ending key limit = (limit, timeUp key limit) :=
  if_neg (Nat.not_le_of_lt late)

theorem ends_ending (key : String) (limit : Duration) (c : Course) :
    Ends key limit c (c.ending key limit).1 (c.ending key limit).2 := by
  cases c with
  | atOnce result => exact .atOnce result
  | after delay result =>
      rcases Nat.lt_or_ge limit.nanos delay.nanos with late | early
      · rw [ending_of_late late]
        exact .late result late
      · rw [ending_of_early early]
        exact .inTime result early
  | never => exact .never

/-- The ending of a load is what it says the first time it says anything. -/
theorem first_asked?_ending (key : String) (limit : Duration) (c : Course) :
    c.asked? key limit (c.ending key limit).1.nanos = some (c.ending key limit).2 ∧
      ∀ earlier < (c.ending key limit).1.nanos, c.asked? key limit earlier = none := by
  cases c with
  | atOnce result => exact ⟨rfl, fun earlier before => absurd before (Nat.not_lt_zero _)⟩
  | after delay result =>
      rcases Nat.lt_or_ge limit.nanos delay.nanos with late | early
      · rw [ending_of_late late]
        have notDone : ¬ delay.nanos ≤ limit.nanos := Nat.not_le_of_lt late
        refine ⟨by simp [asked?, answer?, notDone], fun earlier before => ?_⟩
        have notDone : ¬ delay.nanos ≤ earlier := Nat.not_le_of_lt (Nat.lt_trans before late)
        have notUp : ¬ limit.nanos ≤ earlier := Nat.not_le_of_lt before
        simp [asked?, answer?, notDone, notUp]
      · rw [ending_of_early early]
        refine ⟨by simp [asked?, answer?], fun earlier before => ?_⟩
        have notDone : ¬ delay.nanos ≤ earlier := Nat.not_le_of_lt before
        have notUp : ¬ limit.nanos ≤ earlier := Nat.not_le_of_lt (Nat.lt_of_lt_of_le before early)
        simp [asked?, answer?, notDone, notUp]
  | never =>
      refine ⟨by simp [asked?, answer?, ending], fun earlier before => ?_⟩
      have notUp : ¬ limit.nanos ≤ earlier := Nat.not_le_of_lt before
      simp [asked?, answer?, notUp]

/-- No load takes longer than its limit. -/
theorem ending_le (key : String) (limit : Duration) (c : Course) :
    (c.ending key limit).1.nanos ≤ limit.nanos := by
  cases c with
  | atOnce result => exact Nat.zero_le _
  | after delay result =>
      rcases Nat.lt_or_ge limit.nanos delay.nanos with late | early
      · exact Nat.le_of_eq (by rw [ending_of_late late])
      · rw [ending_of_early early]
        exact early
  | never => exact Nat.le_refl _

end Course

namespace Job

theorem due_begin (limit : Duration) (now : Nat) (job : Job Course) :
    (job.begin limit now).due = now + (job.loader.ending job.key limit).1.nanos := rfl

@[simp] theorem generation_begin (limit : Duration) (now : Nat) (job : Job Course) :
    (job.begin limit now).generation = job.generation := rfl

theorem report_begin (limit : Duration) (now : Nat) (job : Job Course) :
    (job.begin limit now).report =
      ⟨job.generation, job.key, (job.loader.ending job.key limit).2,
        (job.loader.ending job.key limit).1⟩ := by
  simp [Run.report, begin]

end Job

/-! ## Traffic -/

namespace Traffic

/-- The runs that were begun are those whose reports were taken, those whose reports wait, and
those under way. -/
structure Keeps (begun taken waiting : List Run) (t : Traffic) : Prop where
  parts : (taken ++ waiting ++ t.runs).Perm begun
  queued : t.queue = waiting.map Run.report
  ended : ∀ run ∈ taken ++ waiting, run.due ≤ t.now
  ordered : waiting.Pairwise fun a b => a.due ≤ b.due
  behind : ∀ run ∈ t.runs, ∀ earlier ∈ waiting, earlier.due ≤ run.due

/-- Besides, the runs under way are not yet due. -/
structure InTime (begun taken waiting : List Run) (t : Traffic) : Prop
    extends Keeps begun taken waiting t where
  underWay : ∀ run ∈ t.runs, t.now < run.due

theorem notAfter_iff {a b : Run} :
    notAfter a b = true ↔ a.due < b.due ∨ a.due = b.due ∧ a.generation ≤ b.generation := by
  simp [notAfter]

theorem pairwise_due_mergeSort (runs : List Run) :
    (runs.mergeSort notAfter).Pairwise fun a b => a.due ≤ b.due := by
  have trans (a b c : Run) (first : notAfter a b = true) (second : notAfter b c = true) :
      notAfter a c = true := by
    rw [notAfter_iff] at first second ⊢
    omega
  have total (a b : Run) : (notAfter a b || notAfter b a) = true := by
    rw [Bool.or_eq_true, notAfter_iff, notAfter_iff]
    omega
  apply (List.pairwise_mergeSort trans total runs).imp
  intro a b before
  rw [notAfter_iff] at before
  omega

variable {begun taken waiting : List Run} {t : Traffic}

/-- The runs that are over go to the end of the queue, the first one first. -/
theorem Keeps.collect (keeps : t.Keeps begun taken waiting) :
    ∃ waiting, t.collect.InTime begun taken waiting := by
  let finished := t.runs.filter fun r => decide (r.due ≤ t.now)
  have isOver : ∀ run ∈ finished.mergeSort notAfter, run.due ≤ t.now := by
    intro run member
    simpa using (List.mem_filter.1 (List.mem_mergeSort.1 member)).2
  have isRun : ∀ run ∈ finished.mergeSort notAfter, run ∈ t.runs := by
    intro run member
    exact List.mem_of_mem_filter (List.mem_mergeSort.1 member)
  refine ⟨waiting ++ finished.mergeSort notAfter, ⟨?_, ?_, ?_, ?_, ?_⟩, ?_⟩
  · have split : (finished.mergeSort notAfter ++ t.collect.runs).Perm t.runs :=
      ((List.mergeSort_perm ..).append_right _).trans (List.filter_append_perm _ _)
    rw [← List.append_assoc, List.append_assoc]
    exact (split.append_left _).trans keeps.parts
  · rw [List.map_append, ← keeps.queued]
    rfl
  · intro run member
    rw [← List.append_assoc, List.mem_append] at member
    exact member.elim (keeps.ended run) (isOver run)
  · rw [List.pairwise_append]
    exact ⟨keeps.ordered, pairwise_due_mergeSort _, fun earlier member run later =>
      keeps.behind run (isRun run later) earlier member⟩
  · intro run member earlier waits
    have notOver : ¬ run.due ≤ t.now := by simpa using (List.mem_filter.1 member).2
    have ended : earlier.due ≤ t.now := by
      rcases List.mem_append.1 waits with old | new
      · exact keeps.ended earlier (List.mem_append_right _ old)
      · exact isOver earlier new
    omega
  · intro run member
    have notOver : t.now < run.due := by simpa using (List.mem_filter.1 member).2
    exact notOver

theorem InTime.start (inTime : t.InTime begun taken waiting) (limit : Duration)
    (loads : List (Job Course)) :
    ∃ waiting, (t.start limit loads).InTime (begun ++ loads.map (Job.begin limit t.now)) taken
      waiting := by
  suffices keeps : Keeps (begun ++ loads.map (Job.begin limit t.now)) taken waiting
      { t with runs := t.runs ++ loads.map (Job.begin limit t.now) } from keeps.collect
  refine ⟨?_, inTime.queued, inTime.ended, inTime.ordered, ?_⟩
  · rw [← List.append_assoc]
    exact inTime.parts.append_right _
  · intro run member earlier waits
    rcases List.mem_append.1 member with old | new
    · exact inTime.behind run old earlier waits
    · -- A load ends no earlier than it starts.
      obtain ⟨job, _, rfl⟩ := List.mem_map.1 new
      have ended := inTime.ended earlier (List.mem_append_right _ waits)
      rw [Job.due_begin]
      omega

theorem InTime.advance (inTime : t.InTime begun taken waiting) (d : Duration) :
    ∃ waiting, (t.advance d).InTime begun taken waiting := by
  have ended : ∀ run ∈ taken ++ waiting, run.due ≤ t.now + d.nanos := by
    intro run member
    exact Nat.le_add_right_of_le (inTime.ended run member)
  have keeps : Keeps begun taken waiting { t with now := t.now + d.nanos } :=
    ⟨inTime.parts, inTime.queued, ended, inTime.ordered, inTime.behind⟩
  exact keeps.collect

/-- Taking a report leaves the reports before it and behind it in their order. -/
theorem take?_cases {t after : Traffic} {wanted : Option Nat} {report : Report}
    (took : t.take? wanted = some (report, after)) :
    ∃ front back, t.queue = front ++ report :: back ∧
      after = { t with queue := front ++ back } := by
  obtain ⟨i, found, rfl⟩ : ∃ i, t.queue[i]? = some report ∧
      after = { t with queue := t.queue.eraseIdx i } := by
    cases wanted with
    | none =>
        simp only [take?, Option.bind_eq_bind, Option.bind_eq_some_iff, Option.pure_def,
          Option.some.injEq, Prod.mk.injEq] at took
        obtain ⟨i, _, _, found, rfl, rfl⟩ := took
        exact ⟨i, found, rfl⟩
    | some generation =>
        simp only [take?, Option.bind_eq_bind, Option.bind_eq_some_iff, Option.pure_def,
          Option.some.injEq, Prod.mk.injEq] at took
        obtain ⟨i, _, _, found, rfl, rfl⟩ := took
        exact ⟨i, found, rfl⟩
  obtain ⟨inside, rfl⟩ := List.getElem?_eq_some_iff.1 found
  exact ⟨t.queue.take i, t.queue.drop (i + 1),
    by rw [List.getElem_cons_drop, List.take_append_drop],
    by rw [List.eraseIdx_eq_take_drop_succ]⟩

theorem InTime.take (inTime : t.InTime begun taken waiting) {after : Traffic}
    {wanted : Option Nat} {report : Report} (took : t.take? wanted = some (report, after)) :
    ∃ run waiting, report = run.report ∧ after.InTime begun (taken ++ [run]) waiting := by
  obtain ⟨front, back, queue, rfl⟩ := take?_cases took
  rw [inTime.queued] at queue
  obtain ⟨before, rest, rfl, rfl, tail⟩ := List.map_eq_append_iff.1 queue
  obtain ⟨run, behind, rfl, rfl, rfl⟩ := List.map_eq_cons_iff.1 tail
  refine ⟨run, before ++ behind, rfl, ⟨?_, ?_, ?_, ?_, ?_⟩, inTime.underWay⟩
  · have moved : (taken ++ [run] ++ (before ++ behind)).Perm (taken ++ (before ++ run :: behind)) := by
      rw [List.append_assoc, List.singleton_append]
      exact (List.perm_middle.symm).append_left taken
    exact (moved.append_right _).trans inTime.parts
  · exact List.map_append.symm
  · intro other member
    apply inTime.ended other
    simp only [List.mem_append, List.mem_cons, List.not_mem_nil, or_false] at member ⊢
    tauto
  · exact inTime.ordered.sublist ((List.sublist_cons_self ..).append_left before)
  · intro other underWay earlier waits
    apply inTime.behind other underWay
    simp only [List.mem_append, List.mem_cons] at waits ⊢
    tauto

/-! ### What is known of one run -/

theorem InTime.mem_begun (inTime : t.InTime begun taken waiting) {run : Run}
    (member : run ∈ taken ++ waiting) : run ∈ begun :=
  inTime.parts.mem_iff.1 (List.mem_append_left _ member)

/-- A run has reported from the moment on when it is due. -/
theorem InTime.mem_iff (inTime : t.InTime begun taken waiting) {run : Run} (member : run ∈ begun) :
    run ∈ taken ++ waiting ↔ run.due ≤ t.now := by
  constructor
  · exact inTime.ended run
  · intro due
    rcases List.mem_append.1 (inTime.parts.mem_iff.2 member) with reported | running
    · exact reported
    · exact absurd due (Nat.not_le_of_lt (inTime.underWay run running))

theorem InTime.nodup (inTime : t.InTime begun taken waiting)
    (different : (begun.map (·.generation)).Nodup) :
    ((taken ++ waiting).map (·.generation)).Nodup := by
  have all : ((taken ++ waiting ++ t.runs).map (·.generation)).Nodup :=
    (inTime.parts.map _).nodup_iff.2 different
  rw [List.map_append] at all
  exact (List.nodup_append.1 all).1

/-- Of runs with different generations each has reported once if it is due, and else not at all. -/
theorem InTime.filter_eq (inTime : t.InTime begun taken waiting)
    (different : (begun.map (·.generation)).Nodup) {run : Run} (member : run ∈ begun) :
    (taken ++ waiting).filter (·.generation = run.generation) =
      if run.due ≤ t.now then [run] else [] := by
  have same {other : Run} (reported : other ∈ taken ++ waiting)
      (alike : other.generation = run.generation) : other = run :=
    List.inj_on_of_nodup_map different (inTime.mem_begun reported) member alike
  split
  next due =>
    obtain ⟨front, back, split⟩ := List.append_of_mem ((inTime.mem_iff member).2 due)
    have once := (inTime.nodup different).of_map
    rw [split] at once same ⊢
    refine List.filter_eq_cons_iff.2 ⟨front, back, rfl, ?_, by simp, ?_⟩
    · intro other before alike
      obtain rfl := same (List.mem_append_left _ before) (by simpa using alike)
      exact (List.nodup_append.1 once).2.2 other before other (List.mem_cons_self ..) rfl
    · rw [List.filter_eq_nil_iff]
      intro other behind alike
      obtain rfl := same (List.mem_append_right _ (List.mem_cons_of_mem _ behind))
        (by simpa using alike)
      exact (List.nodup_cons.1 (List.nodup_append.1 once).2.1).1 behind
  next early =>
    rw [List.filter_eq_nil_iff]
    intro other reported alike
    obtain rfl := same reported (by simpa using alike)
    exact early (inTime.ended other reported)

/-- A load that runs alone has reported once if it is over, and else not at all. -/
theorem queue_of_one (limit d : Duration) (now : Nat) (job : Job Course) :
    ((({ now } : Traffic).start limit [job]).advance d).queue =
      if (job.loader.ending job.key limit).1.nanos ≤ d.nanos then
        [(job.begin limit now).report] else [] := by
  have empty : ({ now } : Traffic).InTime [] [] [] := ⟨⟨.nil, rfl, by simp, .nil, by simp⟩, by simp⟩
  obtain ⟨_, begun⟩ := empty.start limit [job]
  obtain ⟨waiting, inTime⟩ := begun.advance d
  have reported := inTime.filter_eq (by simp) (List.mem_singleton_self (job.begin limit now))
  have all : waiting.filter (·.generation = (job.begin limit now).generation) = waiting := by
    rw [List.filter_eq_self]
    intro run member
    obtain rfl := List.mem_singleton.1 (inTime.mem_begun (List.mem_append_right [] member))
    simp
  rw [List.nil_append, all] at reported
  have due : (job.begin limit now).due ≤
      ((({ now } : Traffic).start limit [job]).advance d).now ↔
        (job.loader.ending job.key limit).1.nanos ≤ d.nanos := Nat.add_le_add_iff_left
  rw [inTime.queued, reported, apply_ite (List.map Run.report)]
  simp only [due, List.map_cons, List.map_nil]

end Traffic

/-! ## A selection in time -/

variable {α : Type}

/-- A selection with its traffic, and what has become of its loads. -/
structure Service (α : Type) where
  /-- The selection. -/
  selection : Selection := {}
  /-- The loads that were asked for and are not yet started. -/
  held : List (Job α) := []
  /-- The clock, the runs under way and the reports that wait. -/
  traffic : Traffic := {}
  /-- The loads that were started, each with the time of its start. -/
  started : List (Nat × Job Course) := []
  /-- The reports that were taken. -/
  taken : List Report := []

namespace Service

/-- What can happen. -/
inductive Event (α : Type) where
  /-- An entry is selected. -/
  | select (e : Entry)
  /-- A failed entry is tried again. -/
  | retry
  /-- What is shown is closed. -/
  | dismiss
  /-- The loads that are held are started; each of them goes as it likes. -/
  | release (course : Job α → Course)
  /-- Time passes. -/
  | pass (d : Duration)
  /-- A report is taken: the one of a generation, or the first one. -/
  | take (wanted : Option Nat)

/-- Takes the answer to a selection: its load, if there is one, is held. -/
def ask (s : Service α) (answer : Selection × Option (Job α)) : Service α :=
  { s with selection := answer.1, held := s.held ++ answer.2.toList }

/-- The load of a job whose loader goes in a way. -/
def going (course : Job α → Course) (job : Job α) : Job Course :=
  ⟨job.generation, job.key, course job⟩

/-- Performs an event; one that cannot happen changes nothing. -/
def step (r : Registry α) (limit : Duration) (s : Service α) : Event α → Service α
  | .select e => s.ask (s.selection.select r e)
  | .retry =>
    match s.selection.retry? r with
    | some answer => s.ask answer
    | none => s
  | .dismiss => { s with selection := s.selection.dismiss?.getD s.selection }
  | .release course =>
    let loads := s.held.map (going course)
    { s with
      held := []
      traffic := s.traffic.start limit loads
      started := s.started ++ loads.map (s.traffic.now, ·) }
  | .pass d => { s with traffic := s.traffic.advance d }
  | .take wanted =>
    match s.traffic.take? wanted with
    | some (report, traffic) =>
      { s with
        selection := (s.selection.complete report.generation report.result).2
        traffic
        taken := s.taken ++ [report] }
    | none => s

/-- The service after events. -/
def run (r : Registry α) (limit : Duration) (events : List (Event α)) : Service α :=
  events.foldl (step r limit) {}

/-- What every event keeps is kept by every run. -/
theorem run_induction {P : Service α → Prop} {r : Registry α} {limit : Duration} (start : P {})
    (kept : ∀ s event, P s → P (step r limit s event)) (events : List (Event α)) :
    P (run r limit events) := by
  unfold run
  apply List.foldlRecOn events _ start
  intro s holds event _
  exact kept s event holds

/-! ### Generations -/

/-- The generations of the loads, started or held, in the order in which they were asked for. -/
def generations (s : Service α) : List Nat :=
  s.started.map (·.2.generation) ++ s.held.map (·.generation)

/-- The generations of the loads increase up to that of the selection. -/
structure Numbered (s : Service α) : Prop where
  increasing : s.generations.Pairwise (· < ·)
  bounded : ∀ g ∈ s.generations, g ≤ s.selection.generation

theorem Numbered.congr {s t : Service α} (numbered : s.Numbered)
    (loads : t.generations = s.generations)
    (counted : t.selection.generation = s.selection.generation) : t.Numbered := by
  refine ⟨loads ▸ numbered.increasing, ?_⟩
  rw [loads, counted]
  exact numbered.bounded

/-- Selecting numbers its load by the next generation. -/
theorem Numbered.ask {s : Service α} (numbered : s.Numbered) {answer : Selection × Option (Job α)}
    (counted : answer.1.generation = s.selection.generation + 1)
    (named : ∀ job, answer.2 = some job → job.generation = s.selection.generation + 1) :
    (s.ask answer).Numbered := by
  have asked : (s.ask answer).generations =
      s.generations ++ answer.2.toList.map (·.generation) := by
    simp [generations, Service.ask]
  have new : ∀ g ∈ answer.2.toList.map (·.generation), g = s.selection.generation + 1 := by
    intro g member
    obtain ⟨job, wanted, rfl⟩ := List.mem_map.1 member
    exact named job (Option.mem_toList.1 wanted)
  constructor
  · rw [asked, List.pairwise_append]
    refine ⟨numbered.increasing, ?_, ?_⟩
    · cases answer.2 with
      | none => exact .nil
      | some job => exact List.pairwise_singleton ..
    · intro g old g' latest
      have := numbered.bounded g old
      have := new g' latest
      omega
  · intro g member
    rw [asked, List.mem_append] at member
    change g ≤ answer.1.generation
    rw [counted]
    rcases member with old | latest
    · exact Nat.le_succ_of_le (numbered.bounded g old)
    · exact Nat.le_of_eq (new g latest)

theorem Numbered.select {s : Service α} (numbered : s.Numbered) (r : Registry α) (e : Entry) :
    (s.ask (s.selection.select r e)).Numbered := by
  cases found : r.resolve? e.key with
  | none =>
      rw [s.selection.select_of_no_loader found]
      exact numbered.ask rfl (by simp)
  | some loader =>
      rw [s.selection.select_of_loader found]
      exact numbered.ask rfl (by simp)

theorem Numbered.step {s : Service α} (numbered : s.Numbered) (r : Registry α) (limit : Duration)
    (event : Event α) : (s.step r limit event).Numbered := by
  cases event with
  | select e => exact numbered.select r e
  | retry =>
      simp only [Service.step]
      split
      next answer tried =>
        obtain ⟨e, fault, _, rfl⟩ := Selection.retry?_eq_some_iff.1 tried
        exact numbered.select r e
      next nothing => exact numbered
  | dismiss =>
      refine numbered.congr rfl ?_
      simp only [Service.step, Selection.dismiss?_getD]
      split <;> rfl
  | release course =>
      refine numbered.congr ?_ rfl
      simp [Service.step, generations, going, Function.comp_def]
  | pass d => exact numbered.congr rfl rfl
  | take wanted =>
      simp only [Service.step]
      split
      next report traffic took =>
        exact numbered.congr rfl (Selection.complete_generation ..)
      next nothing => exact numbered

/-! ### Runs and reports -/

/-- The runs that were begun. -/
def begun (limit : Duration) (s : Service α) : List Run :=
  s.started.map fun load => load.2.begin limit load.1

/-- The runs that were begun are accounted for by the traffic and by the reports that were taken. -/
def Accounted (limit : Duration) (s : Service α) : Prop :=
  ∃ taken waiting, s.traffic.InTime (s.begun limit) taken waiting ∧
    s.taken = taken.map Run.report

theorem accounted_start (limit : Duration) : ({} : Service α).Accounted limit :=
  ⟨[], [], ⟨⟨.nil, rfl, by simp, .nil, by simp⟩, by simp⟩, rfl⟩

theorem Accounted.step {s : Service α} {limit : Duration} (accounted : s.Accounted limit)
    (r : Registry α) (event : Event α) : (s.step r limit event).Accounted limit := by
  obtain ⟨taken, waiting, inTime, took⟩ := accounted
  cases event with
  | select e => exact ⟨taken, waiting, inTime, took⟩
  | retry =>
      simp only [Service.step]
      split
      next answer tried => exact ⟨taken, waiting, inTime, took⟩
      next nothing => exact ⟨taken, waiting, inTime, took⟩
  | dismiss => exact ⟨taken, waiting, inTime, took⟩
  | release course =>
      obtain ⟨waiting', inTime'⟩ := inTime.start limit (s.held.map (going course))
      refine ⟨taken, waiting', ?_, took⟩
      have begun : (s.step r limit (.release course)).begun limit =
          s.begun limit ++ (s.held.map (going course)).map (Job.begin limit s.traffic.now) := by
        simp [Service.begun, Service.step]
      rw [begun]
      exact inTime'
  | pass d =>
      obtain ⟨waiting', inTime'⟩ := inTime.advance d
      exact ⟨taken, waiting', inTime', took⟩
  | take wanted =>
      simp only [Service.step]
      split
      next report traffic found =>
        obtain ⟨run, waiting', rfl, inTime'⟩ := inTime.take found
        exact ⟨taken ++ [run], waiting', inTime', by simp [took]⟩
      next nothing => exact ⟨taken, waiting, inTime, took⟩

theorem numbered_run (r : Registry α) (limit : Duration) (events : List (Event α)) :
    (run r limit events).Numbered :=
  run_induction ⟨.nil, by simp [generations]⟩
    (fun _ event numbered => numbered.step r limit event) events

theorem accounted_run (r : Registry α) (limit : Duration) (events : List (Event α)) :
    (run r limit events).Accounted limit :=
  run_induction (accounted_start limit) (fun _ event accounted => accounted.step r event) events

/-- Every load reports exactly once, with its own generation and key.  Its report is there from the
moment on when the load ends, and not before: the loader's own text or fault when the loader is done
without waiting, in time or at the very limit, and the fault of a load that took too long when the
limit is reached.  That is also what the load says the first time that it says anything, with its
loader asked before the clock.

So for all selections, started at any times, no load is reported twice; the reports that wait are
those of started loads, every load that was started at least the limit ago and whose report was not
taken is among them, and they are in the order in which their loads ended. -/
theorem each_load_reports_once_in_time (limit : Duration) :
    (∀ (job : Job Course) (now : Nat), ∃ wait result,
      job.loader.Ends job.key limit wait result ∧
      (job.loader.asked? job.key limit wait.nanos = some result ∧
        ∀ earlier < wait.nanos, job.loader.asked? job.key limit earlier = none) ∧
      ∀ d : Duration, ((({ now } : Traffic).start limit [job]).advance d).queue =
        if wait.nanos ≤ d.nanos then [⟨job.generation, job.key, result, wait⟩] else []) ∧
    ∀ (r : Registry α) (events : List (Event α)),
      let s := run r limit events
      (∀ start job, (start, job) ∈ s.started → ∃ wait result,
        job.loader.Ends job.key limit wait result ∧
        (s.taken ++ s.traffic.queue).filter (·.generation = job.generation) =
          if start + wait.nanos ≤ s.traffic.now then [⟨job.generation, job.key, result, wait⟩]
          else []) ∧
      (s.started.map (·.2.generation)).Nodup ∧
      ((s.taken ++ s.traffic.queue).map (·.generation)).Nodup ∧
      (∀ report ∈ s.traffic.queue,
        ∃ start job, (start, job) ∈ s.started ∧ report.generation = job.generation) ∧
      (∀ start job, (start, job) ∈ s.started → start + limit.nanos ≤ s.traffic.now →
        (∀ report ∈ s.taken, report.generation ≠ job.generation) →
          ∃ report ∈ s.traffic.queue, report.generation = job.generation) ∧
      s.traffic.queue.Pairwise fun a b => ∀ startA jobA startB jobB,
        (startA, jobA) ∈ s.started → (startB, jobB) ∈ s.started →
        a.generation = jobA.generation → b.generation = jobB.generation →
          startA + a.elapsed.nanos ≤ startB + b.elapsed.nanos := by
  refine ⟨?_, ?_⟩
  · intro job now
    refine ⟨_, _, job.loader.ends_ending job.key limit,
      job.loader.first_asked?_ending job.key limit, fun d => ?_⟩
    rw [Traffic.queue_of_one, Job.report_begin]
  · intro r events s
    obtain ⟨taken, waiting, inTime, took⟩ := accounted_run r limit events
    have generations : (s.begun limit).map (·.generation) = s.started.map (·.2.generation) := by
      simp [begun, Function.comp_def]
    have increasing : (s.started.map (·.2.generation)).Pairwise (· < ·) :=
      (List.pairwise_append.1 (numbered_run r limit events).increasing).1
    have different : ((s.begun limit).map (·.generation)).Nodup := by
      rw [generations]
      exact increasing.imp Nat.ne_of_lt
    have reports : s.taken ++ s.traffic.queue = (taken ++ waiting).map Run.report := by
      rw [took, inTime.queued, List.map_append]
    have isBegun {start : Nat} {job : Job Course} (member : (start, job) ∈ s.started) :
        job.begin limit start ∈ s.begun limit :=
      List.mem_map_of_mem (f := fun load => load.2.begin limit load.1) member
    have fromStarted {run : Run} (reported : run ∈ taken ++ waiting) :
        ∃ start job, (start, job) ∈ s.started ∧ run = job.begin limit start := by
      obtain ⟨⟨start, job⟩, member, rfl⟩ := List.mem_map.1 (inTime.mem_begun reported)
      exact ⟨start, job, member, rfl⟩
    refine ⟨?_, increasing.imp Nat.ne_of_lt, ?_, ?_, ?_, ?_⟩
    · intro start job member
      refine ⟨_, _, job.loader.ends_ending job.key limit, ?_⟩
      have once := inTime.filter_eq different (isBegun member)
      rw [reports, List.filter_map, ← Job.report_begin limit start, ← Job.due_begin]
      change ((taken ++ waiting).filter (·.generation = job.generation)).map Run.report = _
      rw [Job.generation_begin] at once
      rw [once, apply_ite (List.map Run.report)]
      rfl
    · rw [reports, List.map_map]
      exact inTime.nodup different
    · intro report queued
      rw [inTime.queued] at queued
      obtain ⟨run, waits, rfl⟩ := List.mem_map.1 queued
      obtain ⟨start, job, member, rfl⟩ := fromStarted (List.mem_append_right _ waits)
      exact ⟨start, job, member, rfl⟩
    · intro start job member long untaken
      have due : (job.begin limit start).due ≤ s.traffic.now := by
        have := job.loader.ending_le job.key limit
        rw [Job.due_begin]
        omega
      rcases List.mem_append.1 ((inTime.mem_iff (isBegun member)).2 due) with gone | waits
      · refine absurd rfl (untaken (job.begin limit start).report ?_)
        rw [took]
        exact List.mem_map_of_mem gone
      · refine ⟨(job.begin limit start).report, ?_, rfl⟩
        rw [inTime.queued]
        exact List.mem_map_of_mem waits
    · rw [inTime.queued, List.pairwise_map]
      refine inTime.ordered.imp_of_mem ?_
      intro a b waitsA waitsB before startA jobA startB jobB memberA memberB ofA ofB
      have unique {run : Run} {start : Nat} {job : Job Course} (waits : run ∈ waiting)
          (member : (start, job) ∈ s.started) (alike : run.report.generation = job.generation) :
          run = job.begin limit start :=
        List.inj_on_of_nodup_map different (inTime.mem_begun (List.mem_append_right _ waits))
          (isBegun member) alike
      obtain rfl := unique waitsA memberA ofA
      obtain rfl := unique waitsB memberB ofB
      rw [Job.report_begin, Job.report_begin]
      exact before

/-- A load that ends at the very limit reports what it found then, and nothing before.  Of two loads
that are started together the first one never ends, and the report of the second one is taken: when
the limit is reached each of them has reported once, and the report of the first one waits. -/
theorem load_at_the_very_limit_is_in_time :
    let limit : Duration := ⟨5000000⟩
    let job : Job Course := ⟨1, "a.rs", .after limit (.ok "text")⟩
    let first : Entry := { key := "a.rs", title := "A", category := "Basics" }
    let second : Entry := { key := "b.rs", title := "B", category := "Basics" }
    let r : Registry Unit := { base := "", slots := [("a.rs", ()), ("b.rs", ())] }
    let course (job : Job Unit) : Course :=
      if job.generation = 1 then .never else .after ⟨1000000⟩ (.ok "beta")
    let events : List (Event Unit) := [.select first, .select second, .release course,
      .pass ⟨2000000⟩, .take none, .pass ⟨3000000⟩]
    let s := run r limit events
    (((({} : Traffic).start limit [job]).advance ⟨4999999⟩).queue = [] ∧
      ((({} : Traffic).start limit [job]).advance limit).queue =
        [⟨1, "a.rs", .ok "text", limit⟩]) ∧
    s.taken.map (·.generation) = [2] ∧
    (s.taken ++ s.traffic.queue).filter (·.generation = 1) =
      [⟨1, "a.rs", .error (.loadTimedOut "a.rs" 5), limit⟩] ∧
    (s.taken ++ s.traffic.queue).filter (·.generation = 2) =
      [⟨2, "b.rs", .ok "beta", ⟨1000000⟩⟩] ∧
    ∃ report ∈ s.traffic.queue, report.generation = 1 := by
  intro limit job first second r course events s
  obtain ⟨ofOne, ofAll⟩ := each_load_reports_once_in_time (α := Unit) limit
  have alone : ((({} : Traffic).start limit [job]).advance ⟨4999999⟩).queue = [] ∧
      ((({} : Traffic).start limit [job]).advance limit).queue =
        [⟨1, "a.rs", .ok "text", limit⟩] := by
    obtain ⟨wait, result, ends, -, queue⟩ := ofOne job 0
    cases ends with
    | inTime result early => exact ⟨queue ⟨4999999⟩, queue limit⟩
    | late result late => exact absurd late (Nat.lt_irrefl _)
  have started : s.started =
      [(0, ⟨1, "a.rs", .never⟩), (0, ⟨2, "b.rs", .after ⟨1000000⟩ (.ok "beta")⟩)] := by
    have found : r.resolve? first.key = some () := by decide +kernel
    have found' : r.resolve? second.key = some () := by decide +kernel
    simp only [s, events, run, List.foldl_cons, List.foldl_nil, step, ask,
      Selection.select_of_loader _ found, Selection.select_of_loader _ found']
    split
    next report traffic took => rfl
    next nothing => rfl
  have taken : s.taken.map (·.generation) = [2] := by decide +kernel
  have due : 0 + limit.nanos ≤ s.traffic.now := by decide +kernel
  obtain ⟨reported, -, -, -, waits, -⟩ := ofAll r events
  have member : (0, ⟨1, "a.rs", .never⟩) ∈ s.started := by simp [started]
  have member' : (0, ⟨2, "b.rs", .after ⟨1000000⟩ (.ok "beta")⟩) ∈ s.started := by simp [started]
  refine ⟨alone, taken, ?_, ?_, waits 0 _ member due ?_⟩
  · obtain ⟨wait, result, ends, once⟩ := reported 0 _ member
    cases ends
    have millis : min limit.millis 0xFFFFFFFFFFFFFFFF = 5 := by decide
    rw [if_pos due, millis] at once
    exact once
  · obtain ⟨wait, result, ends, once⟩ := reported 0 _ member'
    cases ends with
    | inTime result early =>
        rw [if_pos (by decide +kernel)] at once
        exact once
    | late result late => exact absurd late (by decide)
  · intro report took
    have generation := List.mem_map_of_mem (f := (·.generation)) took
    rw [taken, List.mem_singleton] at generation
    simp [generation]

end Service

end Showcase
