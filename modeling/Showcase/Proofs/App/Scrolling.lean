import Showcase.Proofs.App.Events
import Showcase.Proofs.App.Independence

/-!
# The scroll position

The scroll position is kept in the view and the text it belongs to in the selection.  It is not
reset when a source is closed or a load is tried again, and scrolling goes on while no source is
shown.  `Selection.State.Admits` says how the two belong together: over a source the position is
that of one of its lines, and otherwise it is any number of 16 bits.

Two arms carry the content.  Scrolling ends within the lines of the source that is shown, wherever
it started (`admits_scrollBy`).  A source is first shown from its first line, since the report that
brings it resets the position; no other action brings one (`scroll_of_new_source`).

The height of the panel that a page is made of is that of a terminal, so a position and the number
of lines to scroll by add up to a number of 32 bits with a sign.
-/

namespace Showcase

variable {α : Type}

/-! ## Positions -/

/-- A scroll position goes with the state of the selection. -/
def Selection.State.Admits : Selection.State → Nat → Prop
  | .ready _ text, scroll => scroll ≤ View.maxScroll (Text.lineCount text)
  | .idle, scroll | .loading _, scroll | .failed _ _, scroll => scroll ≤ View.wordMax

namespace Selection.State

theorem Admits.le_wordMax {state : Selection.State} {scroll : Nat} (admits : state.Admits scroll) :
    scroll ≤ View.wordMax := by
  cases state with
  | ready e text => exact Nat.le_trans admits (Nat.min_le_right _ _)
  | _ => exact admits

theorem admits_zero (state : Selection.State) : state.Admits 0 := by
  cases state <;> exact Nat.zero_le _

end Selection.State

/-- Scrolling adds the lines and keeps the sum between the first line and the last one that can be
reached. -/
theorem View.scroll_scrollBy (v : View) (delta : Int) (count : Nat) :
    ((v.scrollBy delta count).scroll : Int) =
      max 0 (min ((v.scroll : Int) + delta) (min (max count 1 - 1) 65535 : Nat)) := by
  simp only [scrollBy, maxScroll, wordMax]
  omega

/-- The caption under a source tells the line at the top and the number of lines. -/
theorem Source.bottom_paragraph (e : Entry) (text : String) (scroll : Nat) :
    (Source.paragraph e text scroll).box.bind (·.bottom) =
      some (.plain (" line " ++ toString (scroll + 1) ++ "/" ++
        toString (max (Text.lineCount text) 1) ++ "  [↑/↓] scroll  [Esc] close ")) := rfl

namespace App

/-- The lines that an action scrolls by. -/
def linesOf? (v : View) : Action → Option Int
  | .scrollUp => some (-1)
  | .scrollDown => some 1
  | .pageUp => some (-(v.page : Int))
  | .pageDown => some v.page
  | _ => none

theorem handle_of_linesOf? {a : App α} {action : Action} {delta : Int}
    (scrolls : linesOf? a.view action = some delta) (now : Nat) :
    (a.handle now action).app = a.scroll delta := by
  cases action with
  | scrollUp | scrollDown | pageUp | pageDown =>
      obtain rfl := Option.some.inj scrolls
      rfl
  | _ => cases scrolls

/-! ## The invariant -/

/-- The scroll position goes with the selection, and the height of the panel is that of a
terminal. -/
structure Scrolled (a : App α) : Prop where
  /-- The scroll position goes with the selection. -/
  scroll : a.selection.state.Admits a.view.scroll
  /-- The height of the panel has 16 bits. -/
  viewport : a.view.viewport ≤ View.wordMax

section

variable {a : App α}

/-- Wherever it started, scrolling ends within the source that is shown. -/
theorem admits_scrollBy (a : App α) (delta : Int) :
    a.selection.state.Admits (a.view.scrollBy delta a.lineCount).scroll := by
  have bounded : (a.view.scrollBy delta a.lineCount).scroll ≤ View.maxScroll a.lineCount :=
    Nat.min_le_right _ _
  cases state : a.selection.state with
  | ready e text =>
      have count : a.lineCount = Text.lineCount text := by
        simp only [lineCount, state, Selection.State.text?]
      rw [count] at bounded ⊢
      exact bounded
  | _ => exact Nat.le_trans bounded (Nat.min_le_right _ _)

theorem admits_openEntry (a : App α) (now : Nat) (e : Entry) :
    (a.openEntry now e).1.selection.state.Admits (a.openEntry now e).1.view.scroll := by
  cases found : a.registry.resolve? e.key with
  | some loader =>
      rw [a.openEntry_of_loader now found]
      exact Selection.State.admits_zero _
  | none =>
      rw [a.openEntry_of_no_loader now found]
      exact Selection.State.admits_zero _

/-- Trying again leaves the position as it was, and shows no source. -/
theorem admits_retry? (admits : a.selection.state.Admits a.view.scroll) {b : App α} {now : Nat}
    {job : Option (Job α)} (tried : a.retry? now = some (b, job)) :
    b.selection.state.Admits b.view.scroll := by
  obtain ⟨e, fault, _, ⟨loader, _, _, rfl⟩ | ⟨_, _, rfl⟩⟩ := retry?_cases tried
  · exact admits.le_wordMax
  · exact admits.le_wordMax

theorem admits_receive (admits : a.selection.state.Admits a.view.scroll) (now : Nat)
    (report : Report) :
    (a.receive now report).selection.state.Admits (a.receive now report).view.scroll := by
  rcases a.receive_cases now report with ⟨_, received⟩ | ⟨e, text, _, _, _, received⟩ |
    ⟨e, cause, _, _, _, received⟩
  · rw [received]
    exact admits
  · rw [received]
    exact Selection.State.admits_zero _
  · rw [received]
    exact admits.le_wordMax

theorem admits_dismiss? (admits : a.selection.state.Admits a.view.scroll) :
    (a.dismiss?.getD a).selection.state.Admits (a.dismiss?.getD a).view.scroll := by
  rcases a.dismiss?_getD_cases with ⟨same | cleared, scroll⟩
  · rw [same, scroll]
    exact admits
  · rw [cleared, scroll]
    exact admits.le_wordMax

/-- Every action leaves the position where the selection admits it. -/
theorem admits_handle (now : Nat) (action : Action)
    (admits : a.selection.state.Admits a.view.scroll) :
    (a.handle now action).app.selection.state.Admits (a.handle now action).app.view.scroll := by
  cases browses : action.browses with
  | true =>
      have same := a.besides_handle now browses
      simp only [besides, Prod.mk.injEq] at same
      obtain ⟨selection, _, _, scroll⟩ := same
      rw [selection, scroll]
      exact admits
  | false =>
      cases action with
      | tick =>
          obtain ⟨notice, spinner, redraw, ticked⟩ := a.tick_eq_with now
          simp only [handle, ticked]
          exact admits
      | openSelected =>
          change (a.openHighlighted now).1.selection.state.Admits
            (a.openHighlighted now).1.view.scroll
          unfold openHighlighted
          split
          next e highlighted => exact a.admits_openEntry now e
          next nothing => exact admits
      | retrySelection =>
          simp only [handle]
          split
          next b job tried => exact admits_retry? admits tried
          next nothing => exact admits
      | scrollUp | scrollDown | pageUp | pageDown => exact a.admits_scrollBy _
      | dismiss => exact admits_dismiss? admits
      | loaded report => exact admits_receive admits now report
      | quit | resize | focusSearch | blurSearch | toggleHelp => exact admits
      | _ => cases browses

/-- Every event leaves the position where the selection admits it. -/
theorem scrolled_afterEvent (event : Event) (scrolled : a.Scrolled) :
    (a.afterEvent event).Scrolled := by
  cases event with
  | act now action =>
      have same := a.fixtures_handle now action
      simp only [fixtures, Prod.mk.injEq] at same
      obtain ⟨_, _, viewport⟩ := same
      rw [afterEvent]
      refine ⟨admits_handle now action scrolled.scroll, ?_⟩
      rw [viewport]
      exact scrolled.viewport
  | draw width height =>
      simp only [afterEvent, drawnAt]
      split
      next small => exact scrolled
      next large =>
        have fits : height.toNat < 65536 := height.toNat_lt
        have panel : height.toNat - 5 ≤ View.wordMax := by
          unfold View.wordMax
          omega
        exact ⟨scrolled.scroll, panel⟩
  | drawn => exact ⟨scrolled.scroll, scrolled.viewport⟩

/-- Every course leaves the position where the selection admits it. -/
theorem scrolled_after (scrolled : a.Scrolled) (events : List Event) : (a.after events).Scrolled :=
  after_induction (fun _ event scrolled => scrolled_afterEvent event scrolled) scrolled events

/-! ## New sources -/

/-- A source that an action brings is shown from its first line. -/
theorem scroll_of_new_source {now : Nat} {action : Action} {e : Entry} {text : String}
    (shown : (a.handle now action).app.selection.state = .ready e text)
    (new : a.selection.state ≠ .ready e text) : (a.handle now action).app.view.scroll = 0 := by
  cases concerned : action.concernsNotice with
  | false =>
      have same : (a.handle now action).app.selection = a.selection :=
        congrArg Prod.fst (a.told_handle now concerned)
      rw [same] at shown
      exact absurd shown new
  | true =>
      cases action with
      | tick =>
          obtain ⟨notice, spinner, redraw, ticked⟩ := a.tick_eq_with now
          simp only [handle, ticked] at shown
          exact absurd shown new
      | openSelected =>
          cases highlighted : a.highlighted? with
          | none =>
              simp only [handle, openHighlighted, highlighted] at shown
              exact absurd shown new
          | some opened =>
              simp only [handle, openHighlighted, highlighted]
              cases found : a.registry.resolve? opened.key with
              | some loader =>
                  rw [a.openEntry_of_loader now found]
                  rfl
              | none =>
                  rw [a.openEntry_of_no_loader now found]
                  rfl
      | retrySelection =>
          simp only [handle] at shown
          split at shown
          next b job tried =>
            obtain ⟨_, _, _, ⟨_, _, _, rfl⟩ | ⟨_, _, rfl⟩⟩ := retry?_cases tried
            · cases shown
            · cases shown
          next nothing => exact absurd shown new
      | dismiss =>
          simp only [handle] at shown
          rcases a.dismiss?_getD_cases with ⟨same | cleared, _⟩
          · exact absurd (same.symm.trans shown) new
          · rw [cleared] at shown
            cases shown
      | loaded report =>
          simp only [handle] at shown ⊢
          rcases a.receive_cases now report with ⟨_, received⟩ | ⟨_, _, _, _, _, received⟩ |
            ⟨_, _, _, _, _, received⟩
          · rw [received] at shown
            exact absurd shown new
          · rw [received]
            rfl
          · rw [received] at shown
            cases shown
      | _ => cases concerned

/-- Drawing brings no source. -/
theorem scroll_of_new_source_afterEvent {event : Event} {e : Entry} {text : String}
    (shown : (a.afterEvent event).selection.state = .ready e text)
    (new : a.selection.state ≠ .ready e text) : (a.afterEvent event).view.scroll = 0 := by
  cases event with
  | act now action => exact scroll_of_new_source shown new
  | draw width height =>
      have same := congrArg Prod.fst (a.told_drawnAt width.toNat height.toNat)
      simp only [told] at same
      simp only [afterEvent, same] at shown
      exact absurd shown new
  | drawn => exact absurd shown new

end

theorem scrolled_startReporting (c : Catalog) (r : Registry α) (timeout : Duration) (ms : Nat)
    (audit : Option (Nat × Registry.Audit)) (fault : Option (Nat × Fault)) :
    (startReporting c r timeout ms audit fault).Scrolled := by
  obtain ⟨notice, redraw, begun⟩ := startReporting_eq_with c r timeout ms audit fault
  rw [begun]
  exact ⟨Nat.zero_le _, (by decide : 20 ≤ View.wordMax)⟩

/-- In every course, the scroll position over a source is that of one of its lines, as far as 16
bits reach, so the panel's caption counts from one to the number of lines.  A source that an event
brings is shown from its first line.  Scrolling by a line or a page adds the lines, in 32 bits with a sign,
and keeps the sum between the first line and the last. -/
theorem scroll_denotes_a_line (c : Catalog) (r : Registry α) (timeout : Duration) (ms : Nat)
    (audit : Option (Nat × Registry.Audit)) (fault : Option (Nat × Fault)) (events : List Event) :
    let a := (startReporting c r timeout ms audit fault).after events
    (∀ e text, a.selection.state = .ready e text →
      a.view.scroll ≤ min (max (Text.lineCount text) 1 - 1) 65535 ∧
      ∃ k total, 1 ≤ k ∧ k ≤ total ∧ total = max (Text.lineCount text) 1 ∧
        (Source.paragraph e text a.view.scroll).box.bind (·.bottom) =
          some (.plain (" line " ++ toString k ++ "/" ++ toString total ++
            "  [↑/↓] scroll  [Esc] close "))) ∧
    (∀ event e text, (a.afterEvent event).selection.state = .ready e text →
      a.selection.state ≠ .ready e text → (a.afterEvent event).view.scroll = 0) ∧
    (∀ now action delta, linesOf? a.view action = some delta →
      -2147483648 ≤ (a.view.scroll : Int) + delta ∧ (a.view.scroll : Int) + delta < 2147483648 ∧
      ((a.handle now action).app.view.scroll : Int) =
        max 0 (min ((a.view.scroll : Int) + delta)
          (min (max a.lineCount 1 - 1) 65535 : Nat))) := by
  intro a
  have scrolled : a.Scrolled :=
    scrolled_after (scrolled_startReporting c r timeout ms audit fault) events
  clear_value a
  refine ⟨?_, ?_, ?_⟩
  · intro e text shown
    have admits := scrolled.scroll
    rw [shown] at admits
    have bounded : a.view.scroll ≤ min (Text.lineCount text - 1) 65535 := admits
    exact ⟨by omega, a.view.scroll + 1, max (Text.lineCount text) 1, by omega, by omega, rfl,
      Source.bottom_paragraph e text a.view.scroll⟩
  · intro event e text shown new
    exact scroll_of_new_source_afterEvent shown new
  · intro now action delta scrolls
    have position : a.view.scroll ≤ 65535 := scrolled.scroll.le_wordMax
    have page : a.view.page ≤ 65535 := by
      have viewport : a.view.viewport ≤ 65535 := scrolled.viewport
      unfold View.page
      omega
    have lines : -65535 ≤ delta ∧ delta ≤ 65535 := by
      cases action with
      | scrollUp | scrollDown | pageUp | pageDown =>
          obtain rfl := Option.some.inj scrolls
          omega
      | _ => cases scrolls
    refine ⟨by omega, by omega, ?_⟩
    rw [handle_of_linesOf? scrolls]
    exact a.view.scroll_scrollBy delta a.lineCount

/-- A source of three lines is shown from the first, and paging down on a small terminal ends at the
last. -/
theorem paging_past_the_end_stops_at_the_last_line :
    let e : Entry := ⟨"a.rs", "A", "Basics", ""⟩
    let c : Catalog := ⟨[e], by decide, by decide⟩
    let r : Registry Unit := (Registry.empty "samples").put "a.rs" ()
    let opened : List Event :=
      [.act 1 .openSelected, .act 2 .scrollDown, .draw 40 10]
    let brought : Event := .act 3 (.loaded ⟨1, "a.rs", .ok "x\ny\nz\n", ⟨0⟩⟩)
    let a := (startReporting c r ⟨0⟩ 3000 none none).after opened
    (a.afterEvent brought).selection.state = .ready e "x\ny\nz\n" ∧
    (a.afterEvent brought).view.scroll = 0 ∧
    ((a.afterEvent brought).handle 4 .pageDown).app.view.scroll = 2 := by
  intro e c r opened brought a
  have shown : (a.afterEvent brought).selection.state = .ready e "x\ny\nz\n" := by
    decide +kernel
  have new : a.selection.state ≠ .ready e "x\ny\nz\n" := by decide +kernel
  have lines : (a.afterEvent brought).lineCount = 3 := by decide +kernel
  have page : linesOf? (a.afterEvent brought).view .pageDown = some 3 := by decide +kernel
  have before := scroll_denotes_a_line c r ⟨0⟩ 3000 none none opened
  have after := scroll_denotes_a_line c r ⟨0⟩ 3000 none none (opened ++ [brought])
  have here : (startReporting c r ⟨0⟩ 3000 none none).after opened = a := rfl
  rw [here] at before
  rw [after_concat, here] at after
  -- What is left is about any such state, not about the way to it.
  clear here
  clear_value a
  have first := before.2.1 brought e _ shown new
  obtain ⟨_, _, paged⟩ := after.2.2 4 .pageDown 3 page
  rw [first, lines] at paged
  exact ⟨shown, first, by omega⟩

end App

end Showcase
