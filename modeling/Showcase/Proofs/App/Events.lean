import Showcase.App.Screen
import Showcase.Proofs.App.FaultNotice

/-!
# Actions and drawings

Between its actions the application is drawn, and drawing leaves traces: the height of the middle
part is remembered for paging, and once the screen is drawn the wish to draw it is gone.  A *course*
of the application is a list of events of these three kinds, in any order and number, with actions
at any times and drawings at any sizes a terminal can have.

What is said of every course is shown event by event (`App.after_induction`).  Drawings touch
neither the selection nor the notice, so what actions keep between these two (`App.agrees_handle`)
is kept along every course.
-/

namespace Showcase

variable {α : Type}

namespace App

/-- What happens to the application. -/
inductive Event where
  /-- An action is performed at a time. -/
  | act (now : Nat) (action : Action)
  /-- The screen is drawn at a size; terminals count their cells in 16 bits. -/
  | draw (width height : UInt16)
  /-- The screen is noted to be drawn. -/
  | drawn

/-- The application after an event. -/
def afterEvent (a : App α) : Event → App α
  | .act now action => (a.handle now action).app
  | .draw width height => a.drawnAt width.toNat height.toNat
  | .drawn => { a with redraw := false }

/-- The application after events. -/
def after (a : App α) (events : List Event) : App α := events.foldl afterEvent a

theorem after_concat (a : App α) (events : List Event) (event : Event) :
    a.after (events ++ [event]) = (a.after events).afterEvent event := by
  simp only [after, List.foldl_append, List.foldl_cons, List.foldl_nil]

/-- What every event keeps is kept along every course. -/
theorem after_induction {P : App α → Prop} (kept : ∀ a event, P a → P (a.afterEvent event))
    {a : App α} (start : P a) (events : List Event) : P (a.after events) := by
  unfold after
  apply List.foldlRecOn events _ start
  intro a holds event _
  exact kept a event holds

theorem told_drawnAt (a : App α) (width height : Nat) :
    (a.drawnAt width height).told = a.told := by
  unfold drawnAt
  split <;> rfl

theorem agrees_afterEvent {reported : Bool} {a : App α} (event : Event)
    (agrees : a.Agrees reported) : (a.afterEvent event).Agrees reported := by
  cases event with
  | act now action => exact agrees_handle now action agrees
  | draw width height => exact agrees_of_told (a.told_drawnAt _ _) agrees
  | drawn => exact agrees

/-- Every course keeps notice and selection in agreement. -/
theorem agrees_after {reported : Bool} {a : App α} (agrees : a.Agrees reported)
    (events : List Event) : (a.after events).Agrees reported :=
  after_induction (fun _ event agrees => agrees_afterEvent event agrees) agrees events

end App

end Showcase
