import Showcase.Catalog.Builtin
import Showcase.Proofs.App.Events

/-!
# Escaping to the list

Four things can lie over the plain list: the help, a source, the search and a notice.  What the
escape key means depends on the mode, and closing has an order of its own, but the two together take
off the first layer in one fixed order (`press_esc`).  So each press makes the list of layers one
shorter, and after as many presses as there are layers none is left.

That no layer is left does not by itself mean that the list is plain: a fault could be selected with
no notice to close.  In every course a fault on display has its notice (`App.Agrees`), so that does
not happen (`Agrees.plain`).
-/

namespace Showcase

variable {α : Type}

/-- What can lie over the plain list. -/
inductive Layer where
  /-- The help is open. -/
  | help
  /-- A source is shown. -/
  | source
  /-- The search has the keyboard. -/
  | search
  /-- A notice is shown. -/
  | notice
  deriving DecidableEq, Repr

/-- The layers, in the order in which escaping takes them off. -/
def Layer.all : List Layer := [help, source, search, notice]

theorem Selection.State.isReady_of_isFailed {state : Selection.State}
    (shown : state.isFailed = true) : state.isReady = false := by
  cases state with
  | ready e text => cases shown
  | _ => rfl

namespace App

/-! ## Layers -/

/-- Whether a layer lies over the list. -/
def shows (a : App α) : Layer → Bool
  | .help => a.view.help
  | .source => a.selection.state.isReady
  | .search => a.view.searching
  | .notice => a.view.notice.isSome

/-- The layers over the list. -/
def layers (a : App α) : List Layer := Layer.all.filter a.shows

/-- The application with one layer taken off.  With a notice the fault goes that is selected. -/
def without (a : App α) : Layer → App α
  | .help => a.reshow { a.view with help := false }
  | .source => { a with selection := { a.selection with state := .idle }, redraw := true }
  | .search => a.reshow { a.view with searching := false }
  | .notice =>
    { a with
      selection :=
        if a.selection.state.isFailed then { a.selection with state := .idle } else a.selection
      view := { a.view with notice := none }
      redraw := true }

/-- Only the list is there, at most with a source on its way. -/
structure Plain (a : App α) : Prop where
  /-- The help is closed. -/
  help : a.view.help = false
  /-- The search does not have the keyboard. -/
  searching : a.view.searching = false
  /-- No notice is shown. -/
  notice : a.view.notice = none
  /-- Nothing is selected, or a source is awaited. -/
  selection : a.selection.state = .idle ∨ a.selection.state.isLoading = true

theorem length_layers_le (a : App α) : a.layers.length ≤ 4 := List.length_filter_le _ _

/-- Taking one layer off leaves the others. -/
theorem shows_without (a : App α) (layer other : Layer) :
    (a.without layer).shows other = (a.shows other && other != layer) := by
  have idle : Selection.State.idle.isReady = false := rfl
  cases layer with
  | notice =>
      cases other with
      | source =>
          -- The fault that goes with the notice is no source that is shown.
          cases failed : a.selection.state.isFailed with
          | true =>
              have notReady := Selection.State.isReady_of_isFailed failed
              simp [without, shows, failed, notReady, idle]
          | false => simp [without, shows, failed]
      | _ => simp [without, shows]
  | _ => cases other <;> simp [without, shows, reshow, idle]

theorem layers_without (a : App α) (layer : Layer) :
    (a.without layer).layers = a.layers.filter (· != layer) := by
  rw [layers, layers, List.filter_filter]
  congr 1
  funext other
  rw [shows_without, Bool.and_comm]

theorem browsing_without (a : App α) (layer : Layer) :
    (a.without layer).browsing = a.browsing := by
  cases layer <;> rfl

/-! ## Closing -/

section

variable {a : App α} (closed : a.view.help = false)
include closed

theorem dismiss?_source (ready : a.selection.state.isReady = true) :
    a.dismiss? = some (a.without .source) := by
  have settled := Selection.State.isLoading_of_isReady ready
  simp [dismiss?, closed, ready, Selection.dismiss?_getD, settled, without]

theorem dismiss?_notice (notReady : a.selection.state.isReady = false)
    (noticed : a.view.notice.isSome = true) : a.dismiss? = some (a.without .notice) := by
  cases failed : a.selection.state.isFailed with
  | true =>
      have settled := Selection.State.isLoading_of_isFailed failed
      simp [dismiss?, closed, notReady, noticed, failed, Selection.dismiss?_getD, settled, without,
        View.dropNotice]
  | false => simp [dismiss?, closed, notReady, noticed, failed, without, View.dropNotice]

end

/-! ## One press -/

/-- What a key leads to. -/
def press (a : App α) (now : Nat) (key : Key) (control : Bool) : Outcome α :=
  match a.mode.action? key control with
  | some action => a.handle now action
  | none => { app := a }

/-- Escaping takes off the first layer, and does nothing if there is none.  It never quits. -/
theorem press_esc (a : App α) (now : Nat) (control : Bool) :
    a.press now .esc control = { app := a.layers.head?.elim a a.without } := by
  -- Mode and layers look at the same things in the same order, up to the notice.
  cases help : a.view.help with
  | true =>
      simp [press, mode, layers, Layer.all, shows, help, Mode.action?, handle, View.toggleHelp,
        without]
  | false =>
      cases ready : a.selection.state.isReady with
      | true =>
          simp [press, mode, layers, Layer.all, shows, help, ready, Mode.action?, handle,
            dismiss?_source help ready]
      | false =>
          cases searching : a.view.searching with
          | true =>
              simp [press, mode, layers, Layer.all, shows, help, ready, searching, Mode.action?,
                handle, without]
          | false =>
              cases noticed : a.view.notice.isSome with
              | true =>
                  simp [press, mode, layers, Layer.all, shows, help, ready, searching, noticed,
                    Mode.action?, handle, dismiss?_notice help ready noticed]
              | false =>
                  simp [press, mode, layers, Layer.all, shows, help, ready, searching, noticed,
                    Mode.action?, handle, dismiss?]

/-- Each press takes one layer off. -/
theorem layers_press_esc (a : App α) (now : Nat) (control : Bool) :
    (a.press now .esc control).app.layers = a.layers.tail := by
  rw [press_esc]
  have single : a.layers.Nodup := List.Pairwise.filter _ (by decide : Layer.all.Nodup)
  cases found : a.layers with
  | nil => exact found
  | cons layer rest =>
      rw [found] at single
      obtain ⟨new, _⟩ := List.nodup_cons.1 single
      change (a.without layer).layers = rest
      rw [layers_without, found, List.filter_cons, bne_self_eq_false]
      apply List.filter_eq_self.2
      intro other member
      exact bne_iff_ne.2 fun same => new (same ▸ member)

theorem browsing_press_esc (a : App α) (now : Nat) (control : Bool) :
    (a.press now .esc control).app.browsing = a.browsing := by
  rw [press_esc]
  cases a.layers.head? with
  | none => rfl
  | some layer => exact a.browsing_without layer

theorem agrees_press {reported : Bool} {a : App α} (agrees : a.Agrees reported) (now : Nat)
    (key : Key) (control : Bool) : (a.press now key control).app.Agrees reported := by
  unfold press
  split
  next action mapped => exact agrees_handle now action agrees
  next => exact agrees

/-! ## Many presses -/

/-- The application after presses of the escape key, each at a time and with or without control. -/
def escaped (a : App α) (presses : List (Nat × Bool)) : App α :=
  presses.foldl (fun a p => (a.press p.1 .esc p.2).app) a

theorem layers_escaped (a : App α) (presses : List (Nat × Bool)) :
    (a.escaped presses).layers = a.layers.drop presses.length := by
  induction presses generalizing a with
  | nil => rfl
  | cons p presses induction =>
      have first : a.escaped (p :: presses) = (a.press p.1 .esc p.2).app.escaped presses := rfl
      rw [first, induction, layers_press_esc, List.drop_tail, List.length_cons]

theorem browsing_escaped (a : App α) (presses : List (Nat × Bool)) :
    (a.escaped presses).browsing = a.browsing := by
  induction presses generalizing a with
  | nil => rfl
  | cons p presses induction => exact (induction _).trans (a.browsing_press_esc p.1 p.2)

theorem agrees_escaped {reported : Bool} {a : App α} (agrees : a.Agrees reported)
    (presses : List (Nat × Bool)) : (a.escaped presses).Agrees reported := by
  induction presses generalizing a with
  | nil => exact agrees
  | cons p presses induction => exact induction (agrees_press agrees p.1 .esc p.2)

/-! ## The plain list -/

theorem layers_eq_nil_iff {a : App α} :
    a.layers = [] ↔ a.view.help = false ∧ a.selection.state.isReady = false ∧
      a.view.searching = false ∧ a.view.notice = none := by
  simp [layers, Layer.all, shows]

theorem Plain.layers_eq_nil {a : App α} (plain : a.Plain) : a.layers = [] := by
  refine layers_eq_nil_iff.2 ⟨plain.help, ?_, plain.searching, plain.notice⟩
  rcases plain.selection with idle | awaited
  · rw [idle]
    rfl
  · cases state : a.selection.state with
    | ready e text =>
        rw [state] at awaited
        cases awaited
    | _ => rfl

/-- Without layers the list is plain, since a fault on display would have its notice. -/
theorem Agrees.plain {reported : Bool} {a : App α} (agrees : a.Agrees reported)
    (none : a.layers = []) : a.Plain := by
  obtain ⟨help, notReady, searching, notice⟩ := layers_eq_nil_iff.1 none
  refine ⟨help, searching, notice, ?_⟩
  unfold Agrees at agrees
  cases state : a.selection.state with
  | idle => exact Or.inl rfl
  | loading e => exact Or.inr rfl
  | ready e text =>
      rw [state] at notReady
      cases notReady
  | failed e fault =>
      rw [state, notice] at agrees
      obtain ⟨shownAt, noticed⟩ := agrees
      cases noticed

theorem Plain.mode_eq {a : App α} (plain : a.Plain) : a.mode = .browse := by
  obtain ⟨help, notReady, searching, _⟩ := layers_eq_nil_iff.1 plain.layers_eq_nil
  simp [mode, help, notReady, searching]

/-- From every state of every course, escaping again and again never quits and leaves filter, list
and cursor alone.  As long as the list is not plain, a press takes off exactly one layer: the help,
the source, the search, or the notice with the fault that it tells.  After four presses at the
latest the list is plain, keys are read as for browsing, and a further press changes nothing. -/
theorem escaping_unwinds_to_the_list (c : Catalog) (r : Registry α) (timeout : Duration) (ms : Nat)
    (audit : Option (Nat × Registry.Audit)) (fault : Option (Nat × Fault)) (events : List Event)
    (presses : List (Nat × Bool)) :
    let a := (startReporting c r timeout ms audit fault).after events
    let b := a.escaped presses
    (b.filter = a.filter ∧ b.visible = a.visible ∧ b.view.cursor = a.view.cursor) ∧
    (∀ now control, (b.press now .esc control).goesOn = true) ∧
    (¬ b.Plain → ∀ now control, ∃ layer, b.shows layer = true ∧
      (b.press now .esc control).app = b.without layer ∧
      ∀ other, (b.press now .esc control).app.shows other = (b.shows other && other != layer)) ∧
    (4 ≤ presses.length → b.Plain) ∧
    (b.Plain → b.mode = .browse ∧ ∀ now control, (b.press now .esc control).app = b) := by
  intro a b
  have agrees : b.Agrees fault.isSome := agrees_escaped
    (agrees_after (agrees_startReporting c r timeout ms audit fault) events) presses
  obtain ⟨_, _, filter, visible, cursor⟩ := Browsing.mk.inj (a.browsing_escaped presses)
  refine ⟨⟨filter, visible, cursor⟩, ?_, ?_, ?_, ?_⟩
  · intro now control
    rw [press_esc]
  · intro covered now control
    rw [press_esc]
    cases found : b.layers with
    | nil => exact absurd (agrees.plain found) covered
    | cons layer rest =>
        have member : layer ∈ b.layers := by
          rw [found]
          exact List.mem_cons_self
        exact ⟨layer, (List.mem_filter.1 member).2, rfl, b.shows_without layer⟩
  · intro enough
    apply agrees.plain
    rw [a.layers_escaped presses]
    exact List.drop_eq_nil_of_le (Nat.le_trans a.length_layers_le enough)
  · intro plain
    refine ⟨plain.mode_eq, fun now control => ?_⟩
    rw [press_esc, plain.layers_eq_nil]
    rfl

/-- The help is open over the search, and that over the notice of a missing loader: the first press
closes the help, and four presses lead to the list. -/
theorem help_over_search_over_fault_unwinds :
    let a : App Unit :=
      (startReporting Catalog.builtin (Registry.empty "samples") ⟨0⟩ 3000 none none).after
        [.act 1 .openSelected, .act 2 .focusSearch, .draw 80 24, .act 3 .toggleHelp]
    a.layers = [.help, .search, .notice] ∧ ¬ a.Plain ∧
    (∃ layer, a.shows layer = true ∧ (a.press 4 .esc false).app = a.without layer) ∧
    (a.escaped [(4, false), (5, false), (6, true), (7, false)]).Plain ∧
    (a.escaped [(4, false), (5, false), (6, true), (7, false)]).mode = .browse := by
  intro a
  have found : a.layers = [.help, .search, .notice] := by decide +kernel
  have covered : ¬ a.Plain := by
    intro plain
    rw [plain.layers_eq_nil] at found
    cases found
  have unwinds := escaping_unwinds_to_the_list Catalog.builtin
    (Registry.empty "samples" : Registry Unit) ⟨0⟩ 3000 none none
    [.act 1 .openSelected, .act 2 .focusSearch, .draw 80 24, .act 3 .toggleHelp]
  obtain ⟨layer, shown, taken, _⟩ := (unwinds []).2.2.1 covered 4 false
  obtain ⟨_, _, _, plain, browsing⟩ := unwinds [(4, false), (5, false), (6, true), (7, false)]
  exact ⟨found, covered, ⟨layer, shown, taken⟩, plain (by decide), (browsing (plain (by decide))).1⟩

end App

end Showcase
