import Showcase.Proofs.App.Run

/-!
# The notice of a fault

A fault of the selection is told by a notice, but the two are kept apart: the fault belongs to the
selection, the notice to the view.  `Agree` says which notices go with which state of the
selection.  A fault on display has its own notice, in its own words and without an end.  While a
source is awaited or shown no notice tells of a fault.  While nothing is selected none does either,
unless one was reported at the start, before any selection.

Each action that touches one side touches the other: opening takes an old fault's notice away
before it selects, a failing load brings its notice, and closing the notice closes the fault.  A
tick could take a notice away and leave the fault, but the notice of a fault has no end
(`Agree.expire`).
-/

namespace Showcase

variable {α : Type}

/-! ## Agreement -/

/-- No notice that tells of a fault is shown. -/
def Faultless (notice : Option Notice) : Prop := ∀ n, notice = some n → n.level ≠ .error

/-- The notice goes with the state of the selection.  `reported` says whether a fault was reported
at the start, which may be shown for as long as nothing is selected. -/
def Agree (reported : Bool) : Selection.State → Option Notice → Prop
  | .idle, notice => reported = true ∨ Faultless notice
  | .loading _, notice | .ready _ _, notice => Faultless notice
  | .failed _ fault, notice => ∃ shownAt, notice = some ⟨.error, fault.message, shownAt, none⟩

theorem faultless_none : Faultless none := by
  intro n shown
  cases shown

theorem faultless_notify {v : View} {now : Nat} {level : Notice.Level} (harmless : level ≠ .error)
    (message : String) (life : Option Nat) :
    Faultless (v.notify now level message life).notice := by
  intro n shown
  obtain rfl := Option.some.inj shown
  exact harmless

theorem faultless_forOpening (v : View) : Faultless v.forOpening.notice := by
  unfold View.forOpening
  split
  next told => exact faultless_none
  next harmless =>
    intro n shown isFault
    have noticed : v.notice = some n := shown
    apply harmless
    rw [View.hasErrorNotice, noticed, Option.any_some, isFault]
    rfl

namespace Agree

/-- When nothing is selected any harmless notice will do. -/
theorem of_faultless {reported : Bool} {state : Selection.State} {notice : Option Notice}
    (harmless : Faultless notice) (noFault : state.isFailed = false) :
    Agree reported state notice := by
  cases state with
  | idle => exact Or.inr harmless
  | loading e => exact harmless
  | ready e text => exact harmless
  | failed e fault => cases noFault

/-- Closing a source leaves a harmless notice behind. -/
theorem close {reported : Bool} {state : Selection.State} {notice : Option Notice}
    (agree : Agree reported state notice) (shown : state.isReady = true) :
    Agree reported .idle notice := by
  cases state with
  | ready e text => exact Or.inr agree
  | _ => cases shown

/-- Time takes away no notice of a fault on display. -/
theorem expire {reported : Bool} {state : Selection.State} {v : View}
    (agree : Agree reported state v.notice) (now : Nat) :
    Agree reported state (v.expireNotice now).notice := by
  unfold View.expireNotice
  split
  next expired =>
    apply of_faultless faultless_none
    cases state with
    | failed e fault =>
        obtain ⟨shownAt, noticed⟩ := agree
        simp [View.noticeIsOver, noticed, Notice.isOver] at expired
    | _ => rfl
  next lasting => exact agree

end Agree

namespace App

/-- The notice of the application goes with its selection. -/
def Agrees (reported : Bool) (a : App α) : Prop :=
  Agree reported a.selection.state a.view.notice

/-! ## The actions -/

section

variable {reported : Bool} {a : App α}

theorem agrees_of_told {b : App α} (same : b.told = a.told) (agrees : a.Agrees reported) :
    b.Agrees reported := by
  obtain ⟨selection, notice⟩ := Prod.mk.inj same
  rw [Agrees, selection, notice]
  exact agrees

theorem agrees_openEntry (a : App α) (now : Nat) (e : Entry) :
    (a.openEntry now e).1.Agrees reported := by
  cases found : a.registry.resolve? e.key with
  | some loader =>
      rw [a.openEntry_of_loader now found]
      exact faultless_forOpening a.view
  | none =>
      rw [a.openEntry_of_no_loader now found]
      exact ⟨now, rfl⟩

theorem agrees_retry? {b : App α} {now : Nat} {job : Option (Job α)}
    (tried : a.retry? now = some (b, job)) : b.Agrees reported := by
  obtain ⟨e, fault, _, ⟨loader, _, _, rfl⟩ | ⟨_, _, rfl⟩⟩ := retry?_cases tried
  · exact faultless_notify (by decide) _ _
  · exact ⟨now, rfl⟩

theorem agrees_receive (agrees : a.Agrees reported) (now : Nat) (report : Report) :
    (a.receive now report).Agrees reported := by
  rcases a.receive_cases now report with ⟨_, received⟩ | ⟨e, text, _, _, _, received⟩ |
    ⟨e, cause, _, _, _, received⟩
  · rw [received]
    exact agrees
  · rw [received]
    exact faultless_notify (by decide) _ _
  · rw [received]
    exact ⟨now, rfl⟩

theorem agrees_dismiss? (agrees : a.Agrees reported) : (a.dismiss?.getD a).Agrees reported := by
  rcases a.dismiss?_cases with ⟨_, closed⟩ | ⟨_, ready, closed⟩ | ⟨_, _, _, closed⟩ |
    ⟨_, _, _, _, closed⟩ | ⟨_, _, _, _, closed⟩
  · rw [closed]
    exact agrees
  · rw [closed]
    exact Agree.close agrees ready
  · rw [closed]
    -- The notice goes, and a fault behind it goes with it.
    apply Agree.of_faultless faultless_none
    cases failed : a.selection.state.isFailed with
    | true => rfl
    | false => exact failed
  · rw [closed]
    exact agrees
  · rw [closed]
    exact agrees

theorem agrees_tick (agrees : a.Agrees reported) (now : Nat) : (a.tick now).Agrees reported := by
  rw [tick_eq]
  apply Agree.expire
  split <;> exact agrees

/-- Every action keeps notice and selection in agreement. -/
theorem agrees_handle (now : Nat) (action : Action) (agrees : a.Agrees reported) :
    (a.handle now action).app.Agrees reported := by
  cases concerned : action.concernsNotice with
  | false => exact agrees_of_told (a.told_handle now concerned) agrees
  | true =>
      cases action with
      | tick => exact agrees_tick agrees now
      | openSelected =>
          change (a.openHighlighted now).1.Agrees reported
          unfold openHighlighted
          split
          next e highlighted => exact a.agrees_openEntry now e
          next nothing => exact agrees
      | retrySelection =>
          simp only [handle]
          split
          next b job tried => exact agrees_retry? tried
          next nothing => exact agrees
      | dismiss => exact agrees_dismiss? agrees
      | loaded report => exact agrees_receive agrees now report
      | _ => cases concerned

/-- Every run keeps notice and selection in agreement. -/
theorem agrees_run (agrees : a.Agrees reported) (steps : List (Nat × Action)) :
    (a.run steps).Agrees reported :=
  run_induction (fun _ now action agrees => agrees_handle now action agrees) agrees steps

end

/-! ## From the start -/

/-- The state at the start, after the differences between registry and catalog and a fault have
been reported, if there are any. -/
def startReporting (c : Catalog) (r : Registry α) (timeout : Duration) (ms : Nat)
    (audit : Option (Nat × Registry.Audit)) (fault : Option (Nat × Fault)) : App α :=
  let begun := start c r timeout { infoMs := ms }
  let warned := audit.elim begun fun (now, audit) => begun.reportAudit now audit
  fault.elim warned fun (now, fault) => warned.reportFault now fault

/-- What is reported at the start concerns the notice only. -/
theorem startReporting_eq_with (c : Catalog) (r : Registry α) (timeout : Duration) (ms : Nat)
    (audit : Option (Nat × Registry.Audit)) (fault : Option (Nat × Fault)) :
    ∃ notice redraw, startReporting c r timeout ms audit fault =
      { start c r timeout { infoMs := ms } with
        view := { (start c r timeout { infoMs := ms }).view with notice }, redraw } := by
  have warned (now : Nat) (audit : Registry.Audit) : ∃ notice redraw,
      (start c r timeout { infoMs := ms }).reportAudit now audit =
        { start c r timeout { infoMs := ms } with
          view := { (start c r timeout { infoMs := ms }).view with notice }, redraw } := by
    unfold reportAudit
    split
    next => exact ⟨none, _, rfl⟩
    next => exact ⟨_, _, rfl⟩
  cases audit with
  | none =>
      cases fault with
      | none => exact ⟨none, _, rfl⟩
      | some told => exact ⟨_, _, rfl⟩
  | some reported =>
      obtain ⟨notice, redraw, told⟩ := warned reported.1 reported.2
      cases fault with
      | none => exact ⟨notice, redraw, told⟩
      | some fault =>
          simp only [startReporting, Option.elim, told]
          exact ⟨_, _, rfl⟩

theorem selection_reportAudit (a : App α) (now : Nat) (audit : Registry.Audit) :
    (a.reportAudit now audit).selection = a.selection := by
  unfold reportAudit
  split <;> rfl

theorem faultless_reportAudit {a : App α} (harmless : Faultless a.view.notice) (now : Nat)
    (audit : Registry.Audit) : Faultless (a.reportAudit now audit).view.notice := by
  unfold reportAudit
  split
  next covered => exact harmless
  next missing => exact faultless_notify (by decide) _ _

/-- At the start nothing is selected, and only a reported fault is told. -/
theorem agrees_startReporting (c : Catalog) (r : Registry α) (timeout : Duration) (ms : Nat)
    (audit : Option (Nat × Registry.Audit)) (fault : Option (Nat × Fault)) :
    (startReporting c r timeout ms audit fault).Agrees fault.isSome := by
  have idle : (startReporting c r timeout ms audit fault).selection.state = .idle := by
    cases audit <;> cases fault <;>
      simp only [startReporting, Option.elim, reportFault, reshow, selection_reportAudit] <;> rfl
  rw [Agrees, idle]
  cases fault with
  | some reported => exact Or.inl rfl
  | none =>
      refine Or.inr ?_
      cases audit with
      | none => exact faultless_none
      | some reported => exact faultless_reportAudit faultless_none _ _

/-- In every run, a fault on display has a notice: it tells of a fault, in the words of that fault,
and does not go away by itself.  While a source is awaited or shown no notice tells of a fault.
Unless a fault was reported at the start, a notice tells of a fault only while one is on display. -/
theorem fault_notice_goes_with_fault (c : Catalog) (r : Registry α) (timeout : Duration) (ms : Nat)
    (audit : Option (Nat × Registry.Audit)) (fault : Option (Nat × Fault))
    (steps : List (Nat × Action)) :
    let a := (startReporting c r timeout ms audit fault).run steps
    (∀ e fault, a.selection.state = .failed e fault →
      ∃ notice, a.view.notice = some notice ∧ notice.level = .error ∧
        notice.message = fault.message ∧ notice.lifeMs = none) ∧
    (a.selection.state.isLoading = true ∨ a.selection.state.isReady = true →
      ∀ notice, a.view.notice = some notice → notice.level ≠ .error) ∧
    (fault = none → ∀ notice, a.view.notice = some notice → notice.level = .error →
      a.selection.state.isFailed = true) := by
  intro a
  have agrees : a.Agrees fault.isSome :=
    agrees_run (agrees_startReporting c r timeout ms audit fault) steps
  unfold Agrees at agrees
  refine ⟨?_, ?_, ?_⟩
  · intro e fault failed
    rw [failed] at agrees
    obtain ⟨shownAt, noticed⟩ := agrees
    exact ⟨_, noticed, rfl, rfl, rfl⟩
  · intro busy
    cases state : a.selection.state with
    | loading e =>
        rw [state] at agrees
        exact agrees
    | ready e text =>
        rw [state] at agrees
        exact agrees
    | idle => simp [state, Selection.State.isLoading, Selection.State.isReady] at busy
    | failed e fault => simp [state, Selection.State.isLoading, Selection.State.isReady] at busy
  · intro unreported notice noticed isFault
    subst unreported
    cases state : a.selection.state with
    | failed e fault => rfl
    | idle =>
        rw [state] at agrees
        obtain reported | harmless := agrees
        · cases reported
        · exact absurd isFault (harmless notice noticed)
    | loading e =>
        rw [state] at agrees
        exact absurd isFault (agrees notice noticed)
    | ready e text =>
        rw [state] at agrees
        exact absurd isFault (agrees notice noticed)

end App

end Showcase
