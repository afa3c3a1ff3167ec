import Showcase.App.State

/-!
# What the operations of the application do

Opening, trying again, taking a report, closing and ticking each come in a few cases, and each case
sets a few fields.  The lemmas here name the cases and the state that each of them ends in, so that
a proof about a part of the state reads the part off and opens none of these operations again.

The cases follow what decides them: whether there is a loader, what state the selection is in,
whether a report is the awaited one, and what is on display.
-/

namespace Showcase

variable {α : Type}

/-- The view when an entry is opened: a fault told before is forgotten, the search gives the
keyboard back, and the source is shown from its first line. -/
def View.forOpening (v : View) : View :=
  { (if v.hasErrorNotice then v.dropNotice else v) with searching := false, scroll := 0 }

namespace App

/-! ## Opening -/

theorem openEntry_of_loader (a : App α) (now : Nat) {e : Entry} {loader : α}
    (found : a.registry.resolve? e.key = some loader) :
    a.openEntry now e =
      ({ a with
          view := a.view.forOpening
          selection := ⟨.loading e, a.selection.generation + 1⟩
          redraw := true },
        some ⟨a.selection.generation + 1, e.key, loader⟩) := by
  simp only [openEntry, a.selection.select_of_loader found, surfaceFault,
    Selection.State.fault?]
  rfl

theorem openEntry_of_no_loader (a : App α) (now : Nat) {e : Entry}
    (missing : a.registry.resolve? e.key = none) :
    a.openEntry now e =
      ({ a with
          view := a.view.forOpening.tellError now
            (Fault.noLoader e.key (a.registry.place e.key)).message
          selection :=
            ⟨.failed e (.noLoader e.key (a.registry.place e.key)), a.selection.generation + 1⟩
          redraw := true },
        none) := by
  simp only [openEntry, a.selection.select_of_no_loader missing, surfaceFault,
    Selection.State.fault?]
  rfl

/-! ## Trying again -/

theorem retry?_of_not_failed {a : App α} (other : a.selection.state.isFailed = false) (now : Nat) :
    a.retry? now = none := by
  cases state : a.selection.state with
  | failed e fault => simp [state, Selection.State.isFailed] at other
  | _ => simp only [state, retry?, Selection.retry?]

theorem retry?_of_loader {a : App α} {e : Entry} {fault : Fault} {loader : α}
    (failed : a.selection.state = .failed e fault)
    (found : a.registry.resolve? e.key = some loader) (now : Nat) :
    a.retry? now =
      some
        ({ a with
            view := a.view.dropNotice.tellInfo now ("Retrying " ++ e.title ++ " (" ++ e.key ++ ")")
            selection := ⟨.loading e, a.selection.generation + 1⟩
            redraw := true },
          some ⟨a.selection.generation + 1, e.key, loader⟩) := by
  simp only [failed, retry?, Selection.retry?, a.selection.select_of_loader found, surfaceFault,
    Selection.State.fault?, tellRetry]
  rfl

theorem retry?_of_no_loader {a : App α} {e : Entry} {fault : Fault}
    (failed : a.selection.state = .failed e fault)
    (missing : a.registry.resolve? e.key = none) (now : Nat) :
    a.retry? now =
      some
        ({ a with
            view := a.view.dropNotice.tellError now
              (Fault.noLoader e.key (a.registry.place e.key)).message
            selection :=
              ⟨.failed e (.noLoader e.key (a.registry.place e.key)), a.selection.generation + 1⟩
            redraw := true },
          none) := by
  simp only [failed, retry?, Selection.retry?, a.selection.select_of_no_loader missing,
    surfaceFault, Selection.State.fault?, tellRetry]
  rfl

/-- What is tried again is the entry whose fault is shown, and its loader is looked up anew. -/
theorem retry?_cases {a b : App α} {now : Nat} {job : Option (Job α)}
    (tried : a.retry? now = some (b, job)) :
    ∃ e fault, a.selection.state = .failed e fault ∧
      ((∃ loader, a.registry.resolve? e.key = some loader ∧
          job = some ⟨a.selection.generation + 1, e.key, loader⟩ ∧
          b = { a with
            view := a.view.dropNotice.tellInfo now ("Retrying " ++ e.title ++ " (" ++ e.key ++ ")")
            selection := ⟨.loading e, a.selection.generation + 1⟩
            redraw := true }) ∨
        (a.registry.resolve? e.key = none ∧ job = none ∧
          b = { a with
            view := a.view.dropNotice.tellError now
              (Fault.noLoader e.key (a.registry.place e.key)).message
            selection :=
              ⟨.failed e (.noLoader e.key (a.registry.place e.key)), a.selection.generation + 1⟩
            redraw := true })) := by
  cases state : a.selection.state with
  | failed e fault =>
      refine ⟨e, fault, rfl, ?_⟩
      cases found : a.registry.resolve? e.key with
      | some loader =>
          rw [retry?_of_loader state found] at tried
          obtain ⟨rfl, rfl⟩ := Prod.mk.inj (Option.some.inj tried)
          exact Or.inl ⟨loader, rfl, rfl, rfl⟩
      | none =>
          rw [retry?_of_no_loader state found] at tried
          obtain ⟨rfl, rfl⟩ := Prod.mk.inj (Option.some.inj tried)
          exact Or.inr ⟨rfl, rfl, rfl⟩
  | _ =>
      rw [retry?_of_not_failed (by rw [state]; rfl)] at tried
      cases tried

/-! ## Reports -/

/-- A report changes nothing, or it is the awaited one and brings the source or a fault. -/
theorem receive_cases (a : App α) (now : Nat) (report : Report) :
    ((report.generation ≠ a.selection.generation ∨ a.selection.state.isLoading = false) ∧
      a.receive now report = a) ∨
    (∃ e text, report.generation = a.selection.generation ∧ a.selection.state = .loading e ∧
      report.result = .ok text ∧
      a.receive now report =
        { a with
          view := a.view.resetScroll.tellSuccess now
            ("Loaded " ++ e.title ++ " (" ++ toString (Text.lineCount text) ++ " lines)")
          selection := { a.selection with state := .ready e text }
          redraw := true }) ∨
    (∃ e cause, report.generation = a.selection.generation ∧ a.selection.state = .loading e ∧
      report.result = .error cause ∧
      a.receive now report =
        { a with
          view := a.view.tellError now (Selection.loadFault e cause).message
          selection := { a.selection with state := .failed e (Selection.loadFault e cause) }
          redraw := true }) := by
  rcases a.selection.complete_cases report.generation report.result with
    ⟨other, completed⟩ | ⟨e, text, current, awaited, sent, completed⟩ |
    ⟨e, cause, current, awaited, sent, completed⟩
  · exact Or.inl ⟨other, by simp only [receive, completed]⟩
  · refine Or.inr (Or.inl ⟨e, text, current, awaited, sent, ?_⟩)
    simp only [receive, completed, tellLoaded, Selection.State.entry?]
    rfl
  · refine Or.inr (Or.inr ⟨e, cause, current, awaited, sent, ?_⟩)
    simp only [receive, completed, surfaceFault, Selection.State.fault?]
    rfl

/-! ## Closing -/

/-- Closing concerns the help, the source, the notice with the fault behind it, or the search: the
first of them that is there. -/
theorem dismiss?_cases (a : App α) :
    (a.view.help = true ∧ a.dismiss? = some (a.reshow a.view.closeHelp)) ∨
    (a.view.help = false ∧ a.selection.state.isReady = true ∧
      a.dismiss? =
        some { a with selection := { a.selection with state := .idle }, redraw := true }) ∨
    (a.view.help = false ∧ a.selection.state.isReady = false ∧ a.view.notice.isSome = true ∧
      a.dismiss? = some
        { a with
          selection :=
            if a.selection.state.isFailed then { a.selection with state := .idle } else a.selection
          view := a.view.dropNotice
          redraw := true }) ∨
    (a.view.help = false ∧ a.selection.state.isReady = false ∧ a.view.notice.isSome = false ∧
      a.view.searching = true ∧ a.dismiss? = some (a.reshow { a.view with searching := false })) ∨
    (a.view.help = false ∧ a.selection.state.isReady = false ∧ a.view.notice.isSome = false ∧
      a.view.searching = false ∧ a.dismiss? = none) := by
  have closing : a.selection.state.isLoading = false →
      a.selection.dismiss?.getD a.selection = { a.selection with state := .idle } := by
    intro notAwaited
    rw [Selection.dismiss?_getD, notAwaited]
    rfl
  cases help : a.view.help with
  | true => exact Or.inl ⟨rfl, by simp only [dismiss?, help, if_true]⟩
  | false =>
      refine Or.inr ?_
      cases ready : a.selection.state.isReady with
      | true =>
          refine Or.inl ⟨rfl, rfl, ?_⟩
          have := closing (Selection.State.isLoading_of_isReady ready)
          simp [dismiss?, help, ready, this]
      | false =>
          refine Or.inr ?_
          cases noticed : a.view.notice.isSome with
          | true =>
              refine Or.inl ⟨rfl, rfl, rfl, ?_⟩
              cases failed : a.selection.state.isFailed with
              | true =>
                  have := closing (Selection.State.isLoading_of_isFailed failed)
                  simp [dismiss?, help, ready, noticed, failed, this]
              | false => simp [dismiss?, help, ready, noticed, failed]
          | false =>
              refine Or.inr ?_
              cases searching : a.view.searching with
              | true => exact Or.inl ⟨rfl, rfl, rfl, rfl, by
                  simp [dismiss?, help, ready, noticed, searching]⟩
              | false => exact Or.inr ⟨rfl, rfl, rfl, rfl, by
                  simp [dismiss?, help, ready, noticed, searching]⟩

/-- Closing leaves what is selected or clears it, and does not scroll. -/
theorem dismiss?_getD_cases (a : App α) :
    ((a.dismiss?.getD a).selection.state = a.selection.state ∨
      (a.dismiss?.getD a).selection.state = .idle) ∧
    (a.dismiss?.getD a).view.scroll = a.view.scroll := by
  rcases a.dismiss?_cases with ⟨_, closed⟩ | ⟨_, _, closed⟩ | ⟨_, _, _, closed⟩ |
    ⟨_, _, _, _, closed⟩ | ⟨_, _, _, _, closed⟩
  · rw [closed]
    exact ⟨Or.inl rfl, rfl⟩
  · rw [closed]
    exact ⟨Or.inr rfl, rfl⟩
  · rw [closed]
    cases failed : a.selection.state.isFailed with
    | true => exact ⟨Or.inr rfl, rfl⟩
    | false => exact ⟨Or.inl rfl, rfl⟩
  · rw [closed]
    exact ⟨Or.inl rfl, rfl⟩
  · rw [closed]
    exact ⟨Or.inl rfl, rfl⟩

/-! ## Ticking -/

/-- A tick turns the spinner of a source on its way and takes away a notice that is over. -/
theorem tick_eq (a : App α) (now : Nat) :
    a.tick now =
      { a with
        view := (if a.selection.state.isLoading then a.view.spin else a.view).expireNotice now
        redraw := a.redraw || a.selection.state.isLoading || a.view.noticeIsOver now } := by
  -- The spinner leaves the notice alone, so whether it is over is known beforehand.
  have spun : a.view.spin.noticeIsOver now = a.view.noticeIsOver now := rfl
  cases awaited : a.selection.state.isLoading with
  | true =>
      cases expired : a.view.noticeIsOver now with
      | true => simp [tick, awaited, reshow, spun, expired, View.expireNotice]
      | false => simp [tick, awaited, reshow, spun, expired, View.expireNotice]
  | false =>
      cases expired : a.view.noticeIsOver now with
      | true => simp [tick, awaited, reshow, expired, View.expireNotice]
      | false => simp [tick, awaited, expired, View.expireNotice]

end App

end Showcase
