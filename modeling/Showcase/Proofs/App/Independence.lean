import Showcase.Catalog.Builtin
import Showcase.Proofs.App.Run

/-!
# Browsing and loading are independent

Two runs are compared: one with all its actions, and one in which only the browsing actions are
left, performed at any times.  The relation between them is that both states have the same
`App.browsing`.  An action that does not browse leaves the relation alone, since it does not touch
browsing (`browsing_handle`).  One that browses is performed in both runs, and what it makes of
browsing is decided by browsing only, not by the clock and not by what was opened or reported
(`browsing_handle_congr`).

The other direction is a frame: a browsing action does not touch the selection, the notice, the
help or the scroll position (`besides_handle`).
-/

namespace Showcase

variable {α : Type}

/-! ## What browsing depends on -/

namespace View

variable {v w : View}

theorem cursor_clampCursor_congr (same : v.cursor = w.cursor) (len : Nat) :
    (v.clampCursor len).cursor = (w.clampCursor len).cursor := by
  simp only [clampCursor, same]

theorem cursor_cursorUp_congr (same : v.cursor = w.cursor) (len : Nat) :
    (v.cursorUp len).cursor = (w.cursorUp len).cursor := by
  unfold cursorUp
  split
  next empty => exact same
  next rows => simp only [same]

theorem cursor_cursorDown_congr (same : v.cursor = w.cursor) (len : Nat) :
    (v.cursorDown len).cursor = (w.cursorDown len).cursor := by
  unfold cursorDown
  split
  next empty => exact same
  next rows => simp only [same]

end View

namespace App

section

variable {a b : App α} (same : a.browsing = b.browsing)
include same

theorem browsing_refilter_congr (f : Filter) :
    (a.refilter f).browsing = (b.refilter f).browsing := by
  obtain ⟨catalog, categories, _, _, cursor⟩ := Browsing.mk.inj same
  have clamped := View.cursor_clampCursor_congr cursor (f.indices b.catalog.entries).length
  simp only [refilter, refresh, browsing, catalog, categories, clamped]

theorem browsing_reshow_congr {v w : View} (cursor : v.cursor = w.cursor) :
    (a.reshow v).browsing = (b.reshow w).browsing := by
  obtain ⟨catalog, categories, filter, visible, _⟩ := Browsing.mk.inj same
  simp only [reshow, browsing, catalog, categories, filter, visible, cursor]

/-- What an action makes of browsing is decided by browsing alone, at any time. -/
theorem browsing_handle_congr (now later : Nat) (action : Action) :
    (a.handle now action).app.browsing = (b.handle later action).app.browsing := by
  obtain ⟨_, categories, filter, visible, cursor⟩ := Browsing.mk.inj same
  cases browses : action.browses with
  | false => rw [a.browsing_handle now browses, b.browsing_handle later browses, same]
  | true =>
      cases action with
      | queryInput char =>
          simp only [handle, filter]
          exact browsing_refilter_congr same _
      | queryBackspace =>
          simp only [handle, filter]
          split
          next shorter dropped => exact browsing_refilter_congr same shorter
          next empty => exact same
      | clearQuery =>
          simp only [handle, filter]
          exact browsing_refilter_congr same _
      | nextCategory =>
          simp only [handle, filter, categories]
          exact browsing_refilter_congr same _
      | prevCategory =>
          simp only [handle, filter, categories]
          exact browsing_refilter_congr same _
      | moveUp =>
          simp only [handle, visible]
          exact browsing_reshow_congr same (View.cursor_cursorUp_congr cursor _)
      | moveDown =>
          simp only [handle, visible]
          exact browsing_reshow_congr same (View.cursor_cursorDown_congr cursor _)
      | selectFirst =>
          simp only [handle, visible]
          exact browsing_reshow_congr same rfl
      | selectLast =>
          simp only [handle, visible]
          exact browsing_reshow_congr same rfl
      | _ => cases browses

end

/-- A run and what is left of it when all but the browsing is erased end with the same browsing. -/
theorem browsing_run_erased {a b : App α} (same : a.browsing = b.browsing)
    {steps erased : List (Nat × Action)}
    (kept : erased.map (·.2) = (steps.map (·.2)).filter Action.browses) :
    (a.run steps).browsing = (b.run erased).browsing := by
  induction steps generalizing a b erased with
  | nil =>
      obtain rfl := List.map_eq_nil_iff.1 kept
      exact same
  | cons step steps induction =>
      obtain ⟨now, action⟩ := step
      rw [List.map_cons, List.filter_cons] at kept
      split at kept
      next browses =>
        obtain ⟨⟨later, repeated⟩, rest, rfl, rfl, others⟩ := List.map_eq_cons_iff.1 kept
        exact induction (browsing_handle_congr same now later repeated) others
      next other =>
        have unmoved := a.browsing_handle now (Bool.not_eq_true _ ▸ other)
        exact induction (unmoved.trans same) kept

/-! ## What browsing leaves alone -/

/-- What is on display besides the list: the selection, the notice, whether the help is open, and
the scroll position. -/
def besides (a : App α) : Selection × Option Notice × Bool × Nat :=
  (a.selection, a.view.notice, a.view.help, a.view.scroll)

/-- Whatever is typed, chosen or moved, the rest of the display is left alone. -/
theorem besides_handle (a : App α) (now : Nat) {action : Action} (browses : action.browses = true) :
    (a.handle now action).app.besides = a.besides := by
  cases action with
  | queryBackspace =>
      simp only [handle]
      split <;> rfl
  | moveUp =>
      simp only [handle, View.cursorUp]
      split <;> rfl
  | moveDown =>
      simp only [handle, View.cursorDown]
      split <;> rfl
  | queryInput | clearQuery | nextCategory | prevCategory | selectFirst | selectLast => rfl
  | _ => cases browses

/-- From any state, a run and its browsing actions alone, performed at whatever times, end with the
same catalog, categories, filter, list and cursor.  And no browsing action changes the selection,
its generation, the notice, the help or the scroll position. -/
theorem loading_never_interferes_with_browsing (a : App α) (steps erased : List (Nat × Action))
    (kept : erased.map (·.2) = (steps.map (·.2)).filter Action.browses) :
    (let full := a.run steps
     let alone := a.run erased
     full.catalog = alone.catalog ∧
     full.categories = alone.categories ∧
     full.filter.category = alone.filter.category ∧
     full.filter.query = alone.filter.query ∧
     full.visible = alone.visible ∧
     full.view.cursor = alone.view.cursor) ∧
    (∀ now action, action.browses = true →
      let b := (a.handle now action).app
      b.selection.state = a.selection.state ∧
      b.selection.generation = a.selection.generation ∧
      b.view.notice = a.view.notice ∧
      b.view.help = a.view.help ∧
      b.view.scroll = a.view.scroll) := by
  constructor
  · intro full alone
    have same : full.browsing = alone.browsing := browsing_run_erased rfl kept
    obtain ⟨catalog, categories, filter, visible, cursor⟩ := Browsing.mk.inj same
    exact ⟨catalog, categories, congrArg Filter.category filter, congrArg Filter.query filter,
      visible, cursor⟩
  · intro now action browses b
    have same : b.besides = a.besides := a.besides_handle now browses
    obtain ⟨selection, notice, help, scroll⟩ : b.selection = a.selection ∧
        b.view.notice = a.view.notice ∧ b.view.help = a.view.help ∧
        b.view.scroll = a.view.scroll := by
      simpa only [besides, Prod.mk.injEq] using same
    exact ⟨congrArg Selection.state selection, congrArg Selection.generation selection, notice,
      help, scroll⟩

/-- An entry is opened between two browsing actions, a report of another load comes, and a tick:
list and cursor are those of the two browsing actions, performed later. -/
theorem opening_between_two_moves_leaves_the_list :
    let a : App Unit := start Catalog.builtin (Registry.empty "samples") ⟨0⟩ {}
    let steps : List (Nat × Action) :=
      [(1, .queryInput 'f'), (2, .openSelected), (3, .loaded ⟨7, "f.rs", .ok "fn", ⟨0⟩⟩),
        (4, .moveDown), (5, .tick)]
    let erased : List (Nat × Action) := [(8, .queryInput 'f'), (9, .moveDown)]
    erased.map (·.2) = (steps.map (·.2)).filter Action.browses ∧
    (a.run steps).visible = (a.run erased).visible ∧
    (a.run steps).view.cursor = (a.run erased).view.cursor ∧
    ((a.run steps).handle 6 .moveDown).app.selection.state = (a.run steps).selection.state := by
  intro a steps erased
  have kept : erased.map (·.2) = (steps.map (·.2)).filter Action.browses := rfl
  obtain ⟨⟨_, _, _, _, visible, cursor⟩, _⟩ :=
    loading_never_interferes_with_browsing a steps erased kept
  obtain ⟨_, frame⟩ := loading_never_interferes_with_browsing (a.run steps) [] [] rfl
  exact ⟨kept, visible, cursor, (frame 6 .moveDown rfl).1⟩

end App

end Showcase
