import Mathlib.Data.List.Basic
import Showcase.Proofs.App.Operations

/-!
# Runs of the application

A run performs actions one after the other, each at a time of its own.  Nothing is assumed of the
times, nor of the reports that actions bring: a report can have any generation and any result.

What a run keeps is shown action by action (`App.run_induction`).  Most actions concern one part of
the state only.  The state is looked at in two parts: what browsing is about (`App.browsing`), and
the selection with the notice (`App.told`).  The lemmas here say which actions leave which part
alone.  No action at all changes the entries, the loaders or the height that was remembered of the
last drawing (`App.fixtures`).
-/

namespace Showcase

variable {α : Type}

namespace App

/-- The application after actions, each performed at a time. -/
def run (a : App α) (steps : List (Nat × Action)) : App α :=
  steps.foldl (fun a step => (a.handle step.1 step.2).app) a

/-- What every action keeps is kept by every run. -/
theorem run_induction {P : App α → Prop}
    (kept : ∀ a now action, P a → P (a.handle now action).app) {a : App α} (start : P a)
    (steps : List (Nat × Action)) : P (a.run steps) := by
  unfold run
  apply List.foldlRecOn steps _ start
  intro a holds step _
  exact kept a step.1 step.2 holds

end App

/-! ## Browsing -/

/-- What browsing is about: the list, what it is narrowed to, and the highlighted row. -/
structure Browsing where
  /-- The entries to choose from. -/
  catalog : Catalog
  /-- The categories to choose from. -/
  categories : List String
  /-- What the list is narrowed to. -/
  filter : Filter
  /-- The places of the visible entries in the catalog. -/
  visible : List Nat
  /-- The row of the list that is highlighted. -/
  cursor : Option Nat

/-- Whether an action browses. -/
def Action.browses : Action → Bool
  | queryInput _ | queryBackspace | clearQuery | nextCategory | prevCategory | moveUp | moveDown
  | selectFirst | selectLast => true
  | _ => false

namespace App

/-- What browsing is about. -/
def browsing (a : App α) : Browsing :=
  ⟨a.catalog, a.categories, a.filter, a.visible, a.view.cursor⟩

theorem browsing_openEntry (a : App α) (now : Nat) (e : Entry) :
    (a.openEntry now e).1.browsing = a.browsing := by
  have cursor : a.view.forOpening.cursor = a.view.cursor := by
    unfold View.forOpening
    split <;> rfl
  cases found : a.registry.resolve? e.key with
  | some loader =>
      rw [a.openEntry_of_loader now found]
      simp only [browsing, cursor]
  | none =>
      rw [a.openEntry_of_no_loader now found]
      simp only [browsing, View.tellError, View.notify, cursor]

theorem browsing_retry? {a b : App α} {now : Nat} {job : Option (Job α)}
    (tried : a.retry? now = some (b, job)) : b.browsing = a.browsing := by
  obtain ⟨e, fault, _, ⟨loader, _, _, rfl⟩ | ⟨_, _, rfl⟩⟩ := retry?_cases tried
  · rfl
  · rfl

theorem browsing_receive (a : App α) (now : Nat) (report : Report) :
    (a.receive now report).browsing = a.browsing := by
  rcases a.receive_cases now report with ⟨_, received⟩ | ⟨e, text, _, _, _, received⟩ |
    ⟨e, cause, _, _, _, received⟩
  · rw [received]
  · rw [received]
    rfl
  · rw [received]
    rfl

theorem browsing_dismiss? (a : App α) : (a.dismiss?.getD a).browsing = a.browsing := by
  rcases a.dismiss?_cases with ⟨_, closed⟩ | ⟨_, _, closed⟩ | ⟨_, _, _, closed⟩ |
    ⟨_, _, _, _, closed⟩ | ⟨_, _, _, _, closed⟩
  all_goals rw [closed]; rfl

theorem browsing_tick (a : App α) (now : Nat) : (a.tick now).browsing = a.browsing := by
  rw [tick_eq]
  have cursor : ∀ v : View, (v.expireNotice now).cursor = v.cursor := by
    intro v
    unfold View.expireNotice
    split <;> rfl
  simp only [browsing, cursor]
  split <;> rfl

/-- Whatever is opened, tried again, closed, scrolled, ticked or reported, browsing is left
alone. -/
theorem browsing_handle (a : App α) (now : Nat) {action : Action}
    (other : action.browses = false) : (a.handle now action).app.browsing = a.browsing := by
  cases action with
  | tick => exact a.browsing_tick now
  | openSelected =>
      change (a.openHighlighted now).1.browsing = a.browsing
      unfold openHighlighted
      split
      next e highlighted => exact a.browsing_openEntry now e
      next nothing => rfl
  | retrySelection =>
      simp only [handle]
      split
      next b job tried => exact browsing_retry? tried
      next nothing => rfl
  | dismiss => exact a.browsing_dismiss?
  | loaded report => exact a.browsing_receive now report
  | quit | resize | focusSearch | blurSearch | toggleHelp => rfl
  | scrollUp | scrollDown | pageUp | pageDown => rfl
  | _ => cases other

end App

/-! ## The selection and the notice -/

/-- Whether an action can concern the selection or the notice. -/
def Action.concernsNotice : Action → Bool
  | tick | openSelected | retrySelection | dismiss | loaded _ => true
  | _ => false

namespace App

/-- The selection and the notice. -/
def told (a : App α) : Selection × Option Notice := (a.selection, a.view.notice)

/-- Whatever is typed, moved, scrolled or toggled, selection and notice are left alone. -/
theorem told_handle (a : App α) (now : Nat) {action : Action}
    (other : action.concernsNotice = false) : (a.handle now action).app.told = a.told := by
  cases action with
  | queryBackspace =>
      simp only [handle]
      split <;> rfl
  | moveUp =>
      simp only [handle, View.cursorUp]
      split <;> rfl
  | moveDown =>
      simp only [handle, View.cursorDown]
      split <;> rfl
  | quit | resize | focusSearch | blurSearch | toggleHelp => rfl
  | queryInput | clearQuery | nextCategory | prevCategory => rfl
  | selectFirst | selectLast => rfl
  | scrollUp | scrollDown | pageUp | pageDown => rfl
  | _ => cases other

/-! ## What no action changes -/

/-- The entries, the loaders, and the height of the panel of the source. -/
def fixtures (a : App α) : Catalog × Registry α × Nat := (a.catalog, a.registry, a.view.viewport)

theorem fixtures_openEntry (a : App α) (now : Nat) (e : Entry) :
    (a.openEntry now e).1.fixtures = a.fixtures := by
  have viewport : a.view.forOpening.viewport = a.view.viewport := by
    unfold View.forOpening
    split <;> rfl
  cases found : a.registry.resolve? e.key with
  | some loader =>
      rw [a.openEntry_of_loader now found]
      simp only [fixtures, viewport]
  | none =>
      rw [a.openEntry_of_no_loader now found]
      simp only [fixtures, View.tellError, View.notify, viewport]

/-- A tick concerns the notice and the spinner only. -/
theorem tick_eq_with (a : App α) (now : Nat) :
    ∃ notice spinner redraw,
      a.tick now = { a with view := { a.view with notice, spinner }, redraw } := by
  rw [tick_eq]
  unfold View.expireNotice
  cases a.selection.state.isLoading with
  | true =>
      simp only [if_true]
      split
      next expired => exact ⟨none, _, _, rfl⟩
      next lasting => exact ⟨a.view.notice, _, _, rfl⟩
  | false =>
      simp only [Bool.false_eq_true, if_false]
      split
      next expired => exact ⟨none, a.view.spinner, _, rfl⟩
      next lasting => exact ⟨a.view.notice, a.view.spinner, _, rfl⟩

/-- No action changes the entries, the loaders or what is remembered of the last drawing. -/
theorem fixtures_handle (a : App α) (now : Nat) (action : Action) :
    (a.handle now action).app.fixtures = a.fixtures := by
  cases action with
  | tick =>
      obtain ⟨notice, spinner, redraw, ticked⟩ := a.tick_eq_with now
      simp only [handle, ticked]
      rfl
  | queryBackspace =>
      simp only [handle]
      split <;> rfl
  | moveUp =>
      simp only [handle, View.cursorUp]
      split <;> rfl
  | moveDown =>
      simp only [handle, View.cursorDown]
      split <;> rfl
  | openSelected =>
      change (a.openHighlighted now).1.fixtures = a.fixtures
      unfold openHighlighted
      split
      next e highlighted => exact a.fixtures_openEntry now e
      next nothing => rfl
  | retrySelection =>
      simp only [handle]
      split
      next b job tried =>
        obtain ⟨e, fault, _, ⟨loader, _, _, rfl⟩ | ⟨_, _, rfl⟩⟩ := retry?_cases tried
        · rfl
        · rfl
      next nothing => rfl
  | dismiss =>
      simp only [handle]
      rcases a.dismiss?_cases with ⟨_, closed⟩ | ⟨_, _, closed⟩ | ⟨_, _, _, closed⟩ |
        ⟨_, _, _, _, closed⟩ | ⟨_, _, _, _, closed⟩
      all_goals rw [closed]; rfl
  | loaded report =>
      simp only [handle]
      rcases a.receive_cases now report with ⟨_, received⟩ | ⟨e, text, _, _, _, received⟩ |
        ⟨e, cause, _, _, _, received⟩
      all_goals rw [received]
      all_goals rfl
  | _ => rfl

end App

end Showcase
