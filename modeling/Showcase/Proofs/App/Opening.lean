import Mathlib.Data.List.Induction
import Showcase.Proofs.App.FaultNotice

/-!
# Notices that outlive an opening

A notice stays until it is replaced, is closed or has been shown long enough.  So the notice on
display may be that of a selection of long ago, or one reported at the start, and the notice itself
does not say which.  It is traced back along the run: it was there from the start, or one action of
the run put it up for a selection (`App.notice_traced`).  `App.Tells` lists the actions that do so
and the notice of each.

When an entry is opened, the notice of a fault is taken away and any other stays.  So of the notices
of earlier selections those that tell of a loaded source or of a load that is tried again are still
shown while the new source is awaited, and these are the only ones
(`App.opening_discards_notices_of_faults_only`).
-/

namespace Showcase

variable {α : Type}

namespace App

/-! ## Where a notice comes from -/

/-- An action puts a notice up for a selection. -/
inductive Tells (a : App α) (now : Nat) : Action → Notice → Prop where
  /-- The entry that is opened has no loader. -/
  | missing {e : Entry} (opened : a.highlighted? = some e)
      (missing : a.registry.resolve? e.key = none) :
      Tells a now .openSelected
        ⟨.error, (Fault.noLoader e.key (a.registry.place e.key)).message, now, none⟩
  /-- The entry that is tried again has no loader. -/
  | stillMissing {e : Entry} {fault : Fault} (failed : a.selection.state = .failed e fault)
      (missing : a.registry.resolve? e.key = none) :
      Tells a now .retrySelection
        ⟨.error, (Fault.noLoader e.key (a.registry.place e.key)).message, now, none⟩
  /-- An entry is tried again. -/
  | retrying {e : Entry} {fault : Fault} {loader : α} (failed : a.selection.state = .failed e fault)
      (found : a.registry.resolve? e.key = some loader) :
      Tells a now .retrySelection
        ⟨.info, "Retrying " ++ e.title ++ " (" ++ e.key ++ ")", now, some a.view.infoMs⟩
  /-- The awaited source is there. -/
  | loaded {e : Entry} {text : String} {report : Report} (awaited : a.selection.state = .loading e)
      (current : report.generation = a.selection.generation) (sent : report.result = .ok text) :
      Tells a now (.loaded report)
        ⟨.success, "Loaded " ++ e.title ++ " (" ++ toString (Text.lineCount text) ++ " lines)", now,
          some a.view.infoMs⟩
  /-- The awaited source could not be had. -/
  | failed {e : Entry} {cause : Fault} {report : Report} (awaited : a.selection.state = .loading e)
      (current : report.generation = a.selection.generation) (sent : report.result = .error cause) :
      Tells a now (.loaded report) ⟨.error, (Selection.loadFault e cause).message, now, none⟩

/-- No selection warns. -/
theorem Tells.level_ne_warning {a : App α} {now : Nat} {action : Action} {n : Notice}
    (tells : a.Tells now action n) : n.level ≠ .warning := by
  intro warns
  cases tells <;> cases warns

theorem notice_forOpening (v : View) :
    v.forOpening.notice = v.notice.filter fun n => n.level ≠ .error := by
  unfold View.forOpening View.hasErrorNotice
  cases shown : v.notice with
  | none => simp [shown]
  | some n =>
      by_cases fault : n.level = .error
      · simp [fault, View.dropNotice, Option.filter_some]
      · simp [fault, shown, Option.filter_some]

theorem notice_expireNotice {v : View} {now : Nat} {n : Notice}
    (shown : (v.expireNotice now).notice = some n) : v.notice = some n := by
  unfold View.expireNotice at shown
  split at shown
  next expired => cases shown
  next lasting => exact shown

theorem notice_dismiss? {a : App α} {n : Notice} (shown : (a.dismiss?.getD a).view.notice = some n) :
    a.view.notice = some n := by
  rcases a.dismiss?_cases with ⟨_, closed⟩ | ⟨_, _, closed⟩ | ⟨_, _, _, closed⟩ |
    ⟨_, _, _, _, closed⟩ | ⟨_, _, _, _, closed⟩
  all_goals rw [closed] at shown
  · exact shown
  · exact shown
  · cases shown
  · exact shown
  · exact shown

/-- A notice on display after an action was there before, or the action put it up. -/
theorem notice_handle {a : App α} {now : Nat} {action : Action} {n : Notice}
    (shown : (a.handle now action).app.view.notice = some n) :
    a.view.notice = some n ∨ a.Tells now action n := by
  cases concerned : action.concernsNotice with
  | false =>
      have same : (a.handle now action).app.view.notice = a.view.notice :=
        congrArg Prod.snd (a.told_handle now concerned)
      exact Or.inl (same ▸ shown)
  | true =>
      cases action with
      | tick =>
          simp only [handle, tick_eq] at shown
          have before := notice_expireNotice shown
          refine Or.inl ?_
          split at before <;> exact before
      | openSelected =>
          change (a.openHighlighted now).1.view.notice = some n at shown
          unfold openHighlighted at shown
          split at shown
          next e highlighted =>
            cases found : a.registry.resolve? e.key with
            | some loader =>
                rw [a.openEntry_of_loader now found, notice_forOpening] at shown
                exact Or.inl (Option.filter_eq_some_iff.1 shown).1
            | none =>
                rw [a.openEntry_of_no_loader now found] at shown
                obtain rfl := Option.some.inj shown
                exact Or.inr (.missing highlighted found)
          next nothing => exact Or.inl shown
      | retrySelection =>
          simp only [handle] at shown
          split at shown
          next b job tried =>
            obtain ⟨e, fault, failed, ⟨loader, found, _, rfl⟩ | ⟨missing, _, rfl⟩⟩ :=
              retry?_cases tried
            · obtain rfl := Option.some.inj shown
              exact Or.inr (.retrying failed found)
            · obtain rfl := Option.some.inj shown
              exact Or.inr (.stillMissing failed missing)
          next nothing => exact Or.inl shown
      | dismiss => exact Or.inl (notice_dismiss? shown)
      | loaded report =>
          simp only [handle] at shown
          rcases a.receive_cases now report with ⟨_, received⟩ |
            ⟨e, text, current, awaited, sent, received⟩ |
            ⟨e, cause, current, awaited, sent, received⟩
          · rw [received] at shown
            exact Or.inl shown
          · rw [received] at shown
            obtain rfl := Option.some.inj shown
            exact Or.inr (.loaded awaited current sent)
          · rw [received] at shown
            obtain rfl := Option.some.inj shown
            exact Or.inr (.failed awaited current sent)
      | _ => cases concerned

/-- An action of a run put a notice up for a selection. -/
def TellsAlong (begun : App α) (steps : List (Nat × Action)) (n : Notice) : Prop :=
  ∃ before now action after, steps = before ++ (now, action) :: after ∧
    (begun.run before).Tells now action n

theorem run_concat (a : App α) (steps : List (Nat × Action)) (now : Nat) (action : Action) :
    a.run (steps ++ [(now, action)]) = ((a.run steps).handle now action).app := by
  simp only [run, List.foldl_append, List.foldl_cons, List.foldl_nil]

/-- A notice on display after a run was there from the start, or an action of the run put it up. -/
theorem notice_traced {begun : App α} {steps : List (Nat × Action)} {n : Notice}
    (shown : (begun.run steps).view.notice = some n) :
    begun.view.notice = some n ∨ begun.TellsAlong steps n := by
  induction steps using List.reverseRecOn with
  | nil => exact Or.inl shown
  | append_singleton steps step induction =>
      obtain ⟨now, action⟩ := step
      rw [run_concat] at shown
      rcases notice_handle shown with earlier | tells
      · rcases induction earlier with atStart | ⟨before, now', action', after, rfl, tells⟩
        · exact Or.inl atStart
        · exact Or.inr ⟨before, now', action', after ++ [(now, action)], by simp, tells⟩
      · exact Or.inr ⟨steps, now, action, [], rfl, tells⟩

/-! ## The notice at the start -/

/-- At the start a warning of the audit is shown, or the notice of a reported fault. -/
theorem level_startReporting {c : Catalog} {r : Registry α} {timeout : Duration} {ms : Nat}
    {audit : Option (Nat × Registry.Audit)} {fault : Option (Nat × Fault)} {n : Notice}
    (shown : (startReporting c r timeout ms audit fault).view.notice = some n) :
    n.level = .warning ∨ n.level = .error := by
  cases fault with
  | some reported =>
      obtain rfl := Option.some.inj shown
      exact Or.inr rfl
  | none =>
      cases audit with
      | none => cases shown
      | some audited =>
          simp only [startReporting, Option.elim, reportAudit] at shown
          split at shown
          next covered => cases shown
          next missing =>
            obtain rfl := Option.some.inj shown
            exact Or.inl rfl

/-- A notice of a run that tells of no fault is the warning of the start or was put up for a
selection, and then it says that a source was loaded or is tried again. -/
theorem notice_of_no_fault {c : Catalog} {r : Registry α} {timeout : Duration} {ms : Nat}
    {audit : Option (Nat × Registry.Audit)} {fault : Option (Nat × Fault)}
    {steps : List (Nat × Action)} {n : Notice}
    (shown : ((startReporting c r timeout ms audit fault).run steps).view.notice = some n)
    (harmless : n.level ≠ .error) :
    (n.level = .warning ∧ (startReporting c r timeout ms audit fault).view.notice = some n) ∨
      ((n.level = .success ∨ n.level = .info) ∧
        (startReporting c r timeout ms audit fault).TellsAlong steps n) := by
  rcases notice_traced shown with atStart | told
  · exact Or.inl ⟨(level_startReporting atStart).resolve_right harmless, atStart⟩
  · refine Or.inr ⟨?_, told⟩
    obtain ⟨_, _, _, _, _, tells⟩ := told
    cases tells with
    | retrying => exact Or.inr rfl
    | loaded => exact Or.inl rfl
    | _ => exact absurd rfl harmless

/-! ## Opening -/

/-- Opening an entry without a loader puts its fault up; opening another one leaves a notice that
tells of no fault. -/
theorem openEntry_cases (a : App α) (now : Nat) (e : Entry) :
    (a.registry.resolve? e.key = none ∧ ∃ fault,
      (a.openEntry now e).1.selection.state = .failed e fault ∧
      (a.openEntry now e).1.view.notice = some ⟨.error, fault.message, now, none⟩) ∨
    ((∃ loader, a.registry.resolve? e.key = some loader) ∧
      (a.openEntry now e).1.selection.state = .loading e ∧
      (a.openEntry now e).1.view.notice = a.view.notice.filter fun n => n.level ≠ .error) := by
  cases found : a.registry.resolve? e.key with
  | none =>
      rw [a.openEntry_of_no_loader now found]
      exact Or.inl ⟨rfl, _, rfl, rfl⟩
  | some loader =>
      rw [a.openEntry_of_loader now found]
      exact Or.inr ⟨⟨loader, rfl⟩, rfl, notice_forOpening a.view⟩

/-- After an entry is opened in a run, the notice on display is that of its own fault, or it is the
one of before, while the source is awaited, provided that it tells of no fault.  Then it is the
warning of the start, or an action of the run put it up for an earlier selection and it tells of a
loaded source or of a load that is tried again.  So opening discards the notices of earlier
selections exactly if the entry has no loader or no such notice is on display. -/
theorem opening_discards_notices_of_faults_only (c : Catalog) (r : Registry α) (timeout : Duration)
    (ms : Nat) (audit : Option (Nat × Registry.Audit)) (fault : Option (Nat × Fault))
    (steps : List (Nat × Action)) (now : Nat) (e : Entry) :
    let begun := startReporting c r timeout ms audit fault
    let a := begun.run steps
    let b := (a.openEntry now e).1
    let tellsOwnFault (n : Notice) :=
      ∃ fault, b.selection.state = .failed e fault ∧ n = ⟨.error, fault.message, now, none⟩
    (∀ n, b.view.notice = some n ↔ tellsOwnFault n ∨
      b.selection.state = .loading e ∧ a.view.notice = some n ∧ n.level ≠ .error) ∧
    (∀ n, b.view.notice = some n → tellsOwnFault n ∨
      n.level = .warning ∧ begun.view.notice = some n ∨
      (n.level = .success ∨ n.level = .info) ∧ begun.TellsAlong steps n) ∧
    ((∀ n, b.view.notice = some n → tellsOwnFault n ∨ ¬ begun.TellsAlong steps n) ↔
      a.registry.resolve? e.key = none ∨
        ∀ n, a.view.notice = some n → n.level ≠ .success ∧ n.level ≠ .info) := by
  intro begun a b tellsOwnFault
  rcases a.openEntry_cases now e with ⟨missing, fault, failed, told⟩ |
    ⟨⟨loader, found⟩, awaited, left⟩
  · have own (n : Notice) : b.view.notice = some n ↔ tellsOwnFault n := by
      constructor
      · intro shown
        exact ⟨fault, failed, (Option.some.inj (told.symm.trans shown)).symm⟩
      · rintro ⟨other, failed', rfl⟩
        obtain rfl : fault = other := (Selection.State.failed.inj (failed.symm.trans failed')).2
        exact told
    refine ⟨fun n => ?_, fun n shown => Or.inl ((own n).1 shown), ?_⟩
    · rw [own]
      exact (or_iff_left fun waits => by cases failed.symm.trans waits.1).symm
    · exact iff_of_true (fun n shown => Or.inl ((own n).1 shown)) (Or.inl missing)
  · have noFault (n : Notice) : ¬ tellsOwnFault n := by
      rintro ⟨fault, failed, _⟩
      cases awaited.symm.trans failed
    have kept (n : Notice) : b.view.notice = some n ↔ a.view.notice = some n ∧ n.level ≠ .error := by
      rw [left, Option.filter_eq_some_iff]
      simp
    refine ⟨fun n => ?_, fun n shown => ?_, ?_⟩
    · rw [kept]
      simp [noFault, awaited, b]
    · obtain ⟨before, harmless⟩ := (kept n).1 shown
      exact Or.inr (notice_of_no_fault before harmless)
    · constructor
      · intro discards
        refine Or.inr fun n before => ?_
        by_contra outlives
        have level : n.level = .success ∨ n.level = .info := by
          by_contra neither
          exact outlives (not_or.1 neither)
        have harmless : n.level ≠ .error := by rcases level with same | same <;> simp [same]
        rcases notice_of_no_fault before harmless with ⟨warns, _⟩ | ⟨_, told⟩
        · rcases level with same | same <;> rw [same] at warns <;> cases warns
        · exact ((discards n ((kept n).2 ⟨before, harmless⟩)).resolve_left (noFault n)) told
      · rintro (missing | only) n shown
        · cases found.symm.trans missing
        · obtain ⟨before, harmless⟩ := (kept n).1 shown
          refine Or.inr fun told => ?_
          rcases notice_of_no_fault before harmless with ⟨warns, _⟩ | ⟨level, _⟩
          · obtain ⟨_, _, _, _, _, tells⟩ := told
            exact tells.level_ne_warning warns
          · exact level.elim (only n before).1 (only n before).2

/-- Two entries with loaders.  After the source of the first was shown and closed, its notice is
still there while the second is awaited; and so is the notice of the first being tried again, if the
second is opened before it is there. -/
theorem earlier_notices_outlive_an_opening :
    let first : Entry := { key := "a.rs", title := "Alpha", category := "Basics" }
    let second : Entry := { key := "b.rs", title := "Beta", category := "Basics" }
    let c : Catalog := ⟨[first, second], by decide, by decide⟩
    let r : Registry Unit := ((Registry.empty "samples").put "a.rs" ()).put "b.rs" ()
    let begun := startReporting c r ⟨0⟩ 3000 none none
    let shown : List (Nat × Action) :=
      [(0, .openSelected), (1, .loaded { generation := 1, key := "a.rs", result := .ok "fn" }),
        (2, .dismiss)]
    let tried : List (Nat × Action) :=
      [(0, .openSelected),
        (1, .loaded { generation := 1, key := "a.rs", result := .error (.other "no") }),
        (2, .retrySelection)]
    let afterShown := ((begun.run shown).openEntry 3 second).1
    let afterTried := ((begun.run tried).openEntry 3 second).1
    let loaded : Notice := ⟨.success, "Loaded Alpha (1 lines)", 1, some 3000⟩
    let retrying : Notice := ⟨.info, "Retrying Alpha (a.rs)", 2, some 3000⟩
    afterShown.selection.state = .loading second ∧ afterShown.view.notice = some loaded ∧
      begun.TellsAlong shown loaded ∧
    afterTried.selection.state = .loading second ∧ afterTried.view.notice = some retrying ∧
      begun.TellsAlong tried retrying := by
  intro first second c r begun shown tried afterShown afterTried loaded retrying
  have selectedShown : afterShown.selection.state = .loading second := by decide +kernel
  have selectedTried : afterTried.selection.state = .loading second := by decide +kernel
  have noticeShown : afterShown.view.notice = some loaded := by decide +kernel
  have noticeTried : afterTried.view.notice = some retrying := by decide +kernel
  have before : (begun.run shown).view.notice = some loaded := by decide +kernel
  have before' : (begun.run tried).view.notice = some retrying := by decide +kernel
  have nothing : begun.view.notice = none := rfl
  refine ⟨selectedShown, noticeShown, ?_, selectedTried, noticeTried, ?_⟩
  · exact (notice_traced before).resolve_left (by simp [nothing])
  · exact (notice_traced before').resolve_left (by simp [nothing])

end App

end Showcase
