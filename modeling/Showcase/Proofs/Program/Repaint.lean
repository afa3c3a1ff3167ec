import Showcase.Catalog.Builtin
import Showcase.Program
import Showcase.Proofs.App.FaultNotice

/-!
# No repaint is missed

The screen is drawn only when the state asks for it.  So an action that changes something has to
ask, and every action does: it either changes nothing at all or raises `App.redraw`
(`unchanged_or_redraw`).

Drawing leaves one trace in the state, the height of the middle part, and the screen itself does
not depend on it (`screen_remembering`).  So what was drawn last is still the screen of the state
after the drawing, and after every action that asks for nothing.

`Display` puts the program together with the frame that its terminal shows.  A turn of the loop
performs an action and then draws if it must, on a terminal that may have any size by then.  The
main statement is that after every turn the frame shown is the screen of the state, as it was to be
drawn when it was drawn: the duration in the box of a load under way is the one of that moment.
-/

namespace Showcase

variable {α : Type}

namespace App

/-! ## What an action changes -/

theorem unchanged_or_redraw_tick (a : App α) (now : Nat) :
    a.tick now = a ∨ (a.tick now).redraw = true := by
  rw [tick_eq]
  cases awaited : a.selection.state.isLoading with
  | true => exact Or.inr (by simp)
  | false =>
      cases expired : a.view.noticeIsOver now with
      | true => exact Or.inr (by simp)
      | false => exact Or.inl (by simp [View.expireNotice, expired])

theorem unchanged_or_redraw_receive (a : App α) (now : Nat) (report : Report) :
    a.receive now report = a ∨ (a.receive now report).redraw = true := by
  rcases a.receive_cases now report with ⟨_, received⟩ | ⟨e, text, _, _, _, received⟩ |
    ⟨e, cause, _, _, _, received⟩
  · exact Or.inl received
  · exact Or.inr (by rw [received])
  · exact Or.inr (by rw [received])

theorem unchanged_or_redraw_dismiss? (a : App α) :
    a.dismiss?.getD a = a ∨ (a.dismiss?.getD a).redraw = true := by
  rcases a.dismiss?_cases with ⟨_, closed⟩ | ⟨_, _, closed⟩ | ⟨_, _, _, closed⟩ |
    ⟨_, _, _, _, closed⟩ | ⟨_, _, _, _, closed⟩
  · exact Or.inr (by rw [closed]; rfl)
  · exact Or.inr (by rw [closed]; rfl)
  · exact Or.inr (by rw [closed]; rfl)
  · exact Or.inr (by rw [closed]; rfl)
  · exact Or.inl (by rw [closed]; rfl)

/-- An action changes nothing, or it asks for the screen to be drawn. -/
theorem unchanged_or_redraw (a : App α) (now : Nat) (action : Action) :
    (a.handle now action).app = a ∨ (a.handle now action).app.redraw = true := by
  cases action with
  | quit => exact Or.inl rfl
  | tick => exact a.unchanged_or_redraw_tick now
  | queryBackspace =>
      simp only [handle]
      split
      next shorter dropped => exact Or.inr rfl
      next empty => exact Or.inl rfl
  | openSelected =>
      change (a.openHighlighted now).1 = a ∨ (a.openHighlighted now).1.redraw = true
      unfold openHighlighted
      split
      next e highlighted => exact Or.inr rfl
      next nothing => exact Or.inl rfl
  | retrySelection =>
      simp only [handle]
      split
      next b job tried =>
        obtain ⟨e, fault, _, ⟨loader, _, _, rfl⟩ | ⟨_, _, rfl⟩⟩ := retry?_cases tried
        · exact Or.inr rfl
        · exact Or.inr rfl
      next nothing => exact Or.inl rfl
  | dismiss => exact a.unchanged_or_redraw_dismiss?
  | loaded report => exact a.unchanged_or_redraw_receive now report
  | resize | focusSearch | blurSearch | toggleHelp => exact Or.inr rfl
  | queryInput | clearQuery | nextCategory | prevCategory => exact Or.inr rfl
  | moveUp | moveDown | selectFirst | selectLast => exact Or.inr rfl
  | scrollUp | scrollDown | pageUp | pageDown => exact Or.inr rfl

theorem handle_eq_of_redraw_eq_false {a : App α} {now : Nat} {action : Action}
    (quiet : (a.handle now action).app.redraw = false) : (a.handle now action).app = a := by
  rcases a.unchanged_or_redraw now action with unchanged | asked
  · exact unchanged
  · rw [asked] at quiet
    cases quiet

/-! ## What drawing depends on -/

/-- The screen shows neither the height that was remembered nor whether it is to be drawn. -/
theorem screen_remembering (a : App α) (viewport : Nat) (redraw : Bool) (elapsed : Duration)
    (width height : Nat) :
    ({ a with view := { a.view with viewport }, redraw } : App α).screen elapsed width height =
      a.screen elapsed width height := rfl

/-- Drawing changes nothing but the remembered height. -/
theorem drawnAt_eq (a : App α) (width height : Nat) :
    ∃ viewport, a.drawnAt width height = { a with view := { a.view with viewport } } := by
  unfold drawnAt
  split
  next small => exact ⟨a.view.viewport, rfl⟩
  next large => exact ⟨height - 5, rfl⟩

theorem screen_drawnAt (a : App α) (redraw : Bool) (elapsed : Duration) (width height : Nat) :
    ({ a.drawnAt width height with redraw } : App α).screen elapsed width height =
      a.screen elapsed width height := by
  obtain ⟨viewport, drawn⟩ := a.drawnAt_eq width height
  rw [drawn]
  exact a.screen_remembering viewport redraw elapsed width height

/-- Drawing once more at the same size remembers the same height. -/
theorem drawnAt_drawnAt (a : App α) (width height : Nat) :
    (a.drawnAt width height).drawnAt width height = a.drawnAt width height := by
  unfold drawnAt
  split
  next small => rfl
  next large => rfl

/-- Time shows only in the box of a load under way. -/
theorem screen_of_not_loading {a : App α} (settled : a.selection.state.isLoading = false)
    (elapsed other : Duration) (width height : Nat) :
    a.screen elapsed width height = a.screen other width height := by
  have body : a.drawBody elapsed = a.drawBody other := by
    funext f r
    unfold drawBody
    split
    next shown => rfl
    next e awaited =>
      rw [awaited] at settled
      cases settled
    next idle => rfl
    next failed => rfl
  unfold screen
  rw [body]

end App

/-! ## The loop -/

/-- A turn of the loop: an action, and what the terminal and the clock are like when the screen is
drawn after it. -/
structure Turn where
  /-- When the action is performed, in milliseconds. -/
  now : Nat
  /-- The action. -/
  action : Action
  /-- How times are written to the journal. -/
  times : LoadTimes
  /-- How long the load under way has taken so far. -/
  elapsed : Duration
  /-- The size of the terminal. -/
  size : Nat × Nat

/-- A program and what its terminal shows. -/
structure Display where
  /-- The program. -/
  program : Program
  /-- The frame that was drawn last. -/
  shown : Screen.Frame := .blank 0 0
  /-- The size of the terminal when it was drawn. -/
  size : Nat × Nat := (0, 0)
  /-- How long the load under way had taken when it was drawn. -/
  elapsed : Duration := ⟨0⟩

namespace Display

/-- The terminal after the program drew the screen, if the state asks for it. -/
def draw (d : Display) (times : LoadTimes) (elapsed : Duration) : Display :=
  if d.program.app.redraw then
    { program := d.program.draw times
      shown := d.program.app.screen elapsed d.program.size.1 d.program.size.2
      size := d.program.size
      elapsed }
  else { d with program := d.program.draw times }

/-- The terminal after the program performed an action, before it draws. -/
def dispatch (d : Display) (t : Turn) : Display :=
  { d with program := ({ d.program with size := t.size }.dispatch t.now t.times t.action).1 }

/-- A turn of the loop; a program that does not go on takes no more turns. -/
def turn (d : Display) (t : Turn) : Display :=
  if d.program.goesOn then
    if (d.dispatch t).program.goesOn then (d.dispatch t).draw t.times t.elapsed else d.dispatch t
  else d

/-- The terminal after turns of the loop. -/
def run (d : Display) (turns : List Turn) : Display := turns.foldl turn d

/-- The terminal right after the start. -/
def begin (disk : Disk) (size : Nat × Nat) (times : LoadTimes) (elapsed : Duration)
    (app : App FileLoader) : Display :=
  ({ program := { app, disk, size : Program }.record
      [⟨.info, .program, "Starting event loop"⟩] } : Display).draw times elapsed

/-! ### The program of a display is the program -/

theorem program_draw (d : Display) (times : LoadTimes) (elapsed : Duration) :
    (d.draw times elapsed).program = d.program.draw times := by
  unfold draw
  split <;> rfl

theorem program_begin (disk : Disk) (size : Nat × Nat) (times : LoadTimes) (elapsed : Duration)
    (app : App FileLoader) :
    (begin disk size times elapsed app).program = Program.begin disk size times app :=
  program_draw ..

theorem program_turn {d : Display} (goesOn : d.program.goesOn = true) (t : Turn) :
    (d.turn t).program =
      ({ d.program with size := t.size }.perform t.now t.times t.action).1 := by
  unfold turn
  rw [if_pos goesOn]
  simp only [Program.perform]
  split
  next on =>
    rw [program_draw]
    exact (if_pos on).symm
  next ended => exact (if_neg ended).symm

/-! ### What is shown -/

/-- The frame shown is the screen of the state, and nothing is left to be drawn. -/
structure UpToDate (d : Display) : Prop where
  /-- Nothing is left to be drawn. -/
  drawn : d.program.app.redraw = false
  /-- The frame shown is the screen of the state. -/
  shown : d.shown = d.program.app.screen d.elapsed d.size.1 d.size.2

/-- Drawing brings the terminal up to date if the state asks for it. -/
theorem upToDate_draw {d : Display} (asked : d.program.app.redraw = true) (times : LoadTimes)
    (elapsed : Duration) : (d.draw times elapsed).UpToDate := by
  have drawn : (d.draw times elapsed).program.app =
      { d.program.app.drawnAt d.program.size.1 d.program.size.2 with redraw := false } := by
    rw [program_draw, Program.draw, if_pos asked]
    rfl
  constructor
  · rw [drawn]
  · rw [drawn]
    simp only [draw, asked, if_true]
    exact (d.program.app.screen_drawnAt false elapsed _ _).symm

/-- What is up to date needs no drawing. -/
theorem UpToDate.draw {d : Display} (current : d.UpToDate) (times : LoadTimes)
    (elapsed : Duration) : (d.draw times elapsed).UpToDate := by
  have kept : d.program.draw times = d.program := by
    simp only [Program.draw, current.drawn, Bool.false_eq_true, if_false]
  simp only [Display.draw, current.drawn, Bool.false_eq_true, if_false, kept]
  exact current

theorem app_dispatch (d : Display) (t : Turn) :
    (d.dispatch t).program.app = (d.program.app.handle t.now t.action).app := rfl

/-- What is shown stays up to date as long as no action asks for drawing. -/
theorem UpToDate.dispatch {d : Display} (current : d.UpToDate) {t : Turn}
    (quiet : (d.dispatch t).program.app.redraw = false) : (d.dispatch t).UpToDate := by
  have same : (d.dispatch t).program.app = d.program.app :=
    App.handle_eq_of_redraw_eq_false quiet
  constructor
  · exact quiet
  · rw [same]
    exact current.shown

/-- Only what goes on asks for drawing. -/
theorem redraw_dispatch_of_ended {d : Display} (current : d.UpToDate) {t : Turn}
    (ended : (d.dispatch t).program.goesOn ≠ true) : (d.dispatch t).program.app.redraw = false := by
  have handled : (d.program.app.handle t.now t.action).goesOn ≠ true := ended
  rw [app_dispatch]
  cases quits : t.action with
  | quit => exact current.drawn
  | queryBackspace | retrySelection =>
      rw [quits] at handled
      simp only [App.handle] at handled
      split at handled <;> exact absurd rfl handled
  | _ =>
      rw [quits] at handled
      exact absurd rfl handled

/-- Every turn leaves the terminal up to date. -/
theorem UpToDate.turn {d : Display} (current : d.UpToDate) (t : Turn) : (d.turn t).UpToDate := by
  unfold Display.turn
  split
  next on =>
    split
    next goesOn =>
      cases asked : (d.dispatch t).program.app.redraw with
      | true => exact upToDate_draw asked t.times t.elapsed
      | false => exact (current.dispatch asked).draw t.times t.elapsed
    next ended => exact current.dispatch (redraw_dispatch_of_ended current ended)
  next ended => exact current

/-- Every run leaves the terminal up to date. -/
theorem UpToDate.run {d : Display} (current : d.UpToDate) (turns : List Turn) :
    (d.run turns).UpToDate := by
  unfold Display.run
  apply List.foldlRecOn turns Display.turn current
  intro d current t _
  exact current.turn t

/-- A change of size that is reported is drawn at the new size. -/
theorem size_turn_resize {d : Display} (goesOn : d.program.goesOn = true) {t : Turn}
    {width height : Nat} (reported : t.action = .resize width height) :
    (d.turn t).size = t.size := by
  have asked : (d.dispatch t).program.app.redraw = true := by
    rw [app_dispatch, reported]
    rfl
  have on : (d.dispatch t).program.goesOn = true := by
    change (d.program.app.handle t.now t.action).goesOn = true
    rw [reported]
    rfl
  simp only [turn, goesOn, on, if_true, draw, asked]
  rfl

end Display

/-! ## From the start -/

theorem App.redraw_startReporting (c : Catalog) (r : Registry α) (timeout : Duration) (ms : Nat)
    (audit : Option (Nat × Registry.Audit)) (fault : Option (Nat × Fault)) :
    (startReporting c r timeout ms audit fault).redraw = true := by
  cases fault with
  | some reported => rfl
  | none =>
      cases audit with
      | none => rfl
      | some reported =>
          simp only [startReporting, Option.elim, reportAudit]
          split <;> rfl

/-- An action that leaves the state without a wish to be drawn has changed nothing, so the screen is
the same at every size.  Drawing changes only the remembered height, and drawing once more at that
size gives the same frame and the same state.  So in every run of the program (the display adds only
the frame to it), however the size of the terminal changes, the frame shown after a turn is the
screen of the state at the size and with the duration it was drawn with; the duration matters only
while a load is under way, and a reported change of size is drawn at the new size. -/
theorem no_repaint_is_missed :
    (∀ (a : App α) (now : Nat) (action : Action), a.redraw = false →
      (a.handle now action).app.redraw = false →
        (a.handle now action).app = a ∧
        ∀ elapsed width height,
          (a.handle now action).app.screen elapsed width height = a.screen elapsed width height) ∧
    (∀ (a : App α) (width height : Nat),
      (∃ viewport, a.drawnAt width height = { a with view := { a.view with viewport } }) ∧
      (∀ elapsed,
        (a.drawnAt width height).screen elapsed width height = a.screen elapsed width height) ∧
      (a.drawnAt width height).drawnAt width height = a.drawnAt width height) ∧
    (∀ (c : Catalog) (r : Registry FileLoader) (timeout : Duration) (ms : Nat)
      (audit : Option (Nat × Registry.Audit)) (fault : Option (Nat × Fault)) (disk : Disk)
      (size : Nat × Nat) (times : LoadTimes) (elapsed : Duration) (turns : List Turn),
      let begun := Display.begin disk size times elapsed
        (App.startReporting c r timeout ms audit fault)
      let d := begun.run turns
      let a := d.program.app
      begun.program =
        Program.begin disk size times (App.startReporting c r timeout ms audit fault) ∧
      (∀ t, d.program.goesOn = true → (d.turn t).program =
        ({ d.program with size := t.size }.perform t.now t.times t.action).1) ∧
      d.shown = a.screen d.elapsed d.size.1 d.size.2 ∧
      (a.selection.state.isLoading = false →
        ∀ elapsed, d.shown = a.screen elapsed d.size.1 d.size.2) ∧
      (∀ t width height, d.program.goesOn = true → t.action = .resize width height →
        (d.turn t).size = t.size)) := by
  refine ⟨?_, ?_, ?_⟩
  · intro a now action _ quiet
    have same := App.handle_eq_of_redraw_eq_false quiet
    exact ⟨same, fun elapsed width height => by rw [same]⟩
  · intro a width height
    exact ⟨a.drawnAt_eq width height,
      fun elapsed => a.screen_drawnAt _ elapsed width height, a.drawnAt_drawnAt width height⟩
  · intro c r timeout ms audit fault disk size times elapsed turns begun d a
    have begunUpToDate : begun.UpToDate :=
      Display.upToDate_draw (App.redraw_startReporting c r timeout ms audit fault) times elapsed
    have current : d.UpToDate := begunUpToDate.run turns
    refine ⟨Display.program_begin .., fun t goesOn => Display.program_turn goesOn t,
      current.shown, ?_, ?_⟩
    · intro settled other
      rw [current.shown]
      exact App.screen_of_not_loading settled _ _ _ _
    · intro t width height goesOn reported
      exact Display.size_turn_resize goesOn reported

/-- Taking a character off an empty search asks for no drawing, and changes nothing. -/
theorem backspace_on_empty_search_asks_for_nothing :
    let drawn : App Unit := App.start Catalog.builtin (Registry.empty "samples") ⟨0⟩ {}
    let a : App Unit := { drawn with redraw := false }
    a.redraw = false ∧ (a.handle 5 .queryBackspace).app.redraw = false ∧
      (a.handle 5 .queryBackspace).app = a := by
  intro drawn a
  have quiet : (a.handle 5 .queryBackspace).app.redraw = false := rfl
  exact ⟨rfl, quiet, (no_repaint_is_missed.1 a 5 .queryBackspace rfl quiet).1⟩

end Showcase
