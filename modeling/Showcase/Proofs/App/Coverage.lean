import Showcase.Proofs.App.FaultNotice
import Showcase.Proofs.Registry.Audit

/-!
# Misses are foretold

A selection ends in the fault of a missing loader only if its entry has none.  No action changes the
catalog or the loaders (`fixtures_handle`), only entries of the catalog are opened, and what is
tried again was opened before.  So in every run a miss concerns an entry of the catalog whose key
the audit at the start names as missing (`Grounded.mem_missing`).

The fault of a load that was started is another fault, whatever its cause: a load that fails with a
miss of its own is told as a failed load.
-/

namespace Showcase

variable {α : Type}

/-! ## What is selected -/

/-- What is selected is an entry of the catalog, and it is told to have no loader only if it has
none. -/
def Selection.State.Grounded (c : Catalog) (r : Registry α) : Selection.State → Prop
  | .idle => True
  | .loading e | .ready e _ => e ∈ c.entries
  | .failed e fault => e ∈ c.entries ∧ (fault.isNoLoader = true → r.contains e.key = false)

/-- A miss concerns a key that the audit names. -/
theorem Selection.State.Grounded.mem_missing {c : Catalog} {r : Registry α}
    {state : Selection.State} (grounded : state.Grounded c r) {fault : Fault}
    (shown : state.fault? = some fault) (miss : fault.isNoLoader = true) :
    ∃ e ∈ c.entries, state.entry? = some e ∧ e.key ∈ (r.audit c).missing := by
  cases state with
  | failed e other =>
      obtain rfl := Option.some.inj shown
      obtain ⟨listed, absent⟩ := grounded
      exact ⟨e, listed, rfl,
        Registry.mem_missing_iff.2 ⟨List.mem_map_of_mem listed, absent miss⟩⟩
  | _ => cases shown

namespace App

/-- The application still has the catalog and the loaders it started with, and its selection is
grounded in them. -/
structure Grounded (c : Catalog) (r : Registry α) (a : App α) : Prop where
  /-- The entries are those of the start. -/
  catalog : a.catalog = c
  /-- The loaders are those of the start. -/
  registry : a.registry = r
  /-- What is selected is an entry of the catalog, and missing only if it is. -/
  selection : a.selection.state.Grounded c r

section

variable {c : Catalog} {r : Registry α} {a : App α}

theorem grounded_openEntry (grounded : a.Grounded c r) (now : Nat) {e : Entry}
    (listed : e ∈ c.entries) : (a.openEntry now e).1.selection.state.Grounded c r := by
  cases found : a.registry.resolve? e.key with
  | some loader =>
      rw [a.openEntry_of_loader now found]
      exact listed
  | none =>
      rw [a.openEntry_of_no_loader now found]
      rw [grounded.registry] at found
      exact ⟨listed, fun _ => by rw [Registry.contains, found]; rfl⟩

theorem mem_entries_of_highlighted? {e : Entry} (grounded : a.Grounded c r)
    (highlighted : a.highlighted? = some e) : e ∈ c.entries := by
  simp only [highlighted?, Option.bind_eq_bind, Option.bind_eq_some_iff] at highlighted
  obtain ⟨row, _, place, _, there⟩ := highlighted
  rw [← grounded.catalog]
  exact List.mem_of_getElem? there

/-- What is tried again is selected as it was opened, so the same holds of it. -/
theorem grounded_retry? (grounded : a.Grounded c r) {b : App α} {now : Nat}
    {job : Option (Job α)} (tried : a.retry? now = some (b, job)) :
    b.selection.state.Grounded c r := by
  have selection := grounded.selection
  obtain ⟨e, fault, failed, outcome⟩ := retry?_cases tried
  rw [failed] at selection
  obtain ⟨listed, _⟩ := selection
  rcases outcome with ⟨loader, _, _, rfl⟩ | ⟨missing, _, rfl⟩
  · exact listed
  · rw [grounded.registry] at missing
    exact ⟨listed, fun _ => by rw [Registry.contains, missing]; rfl⟩

theorem grounded_receive (grounded : a.Grounded c r) (now : Nat) (report : Report) :
    (a.receive now report).selection.state.Grounded c r := by
  have selection := grounded.selection
  rcases a.receive_cases now report with ⟨_, received⟩ | ⟨e, text, _, awaited, _, received⟩ |
    ⟨e, cause, _, awaited, _, received⟩
  · rw [received]
    exact selection
  · rw [received]
    rw [awaited] at selection
    exact selection
  · rw [received]
    rw [awaited] at selection
    exact ⟨selection, fun miss => by cases miss⟩

theorem grounded_dismiss? (grounded : a.Grounded c r) :
    (a.dismiss?.getD a).selection.state.Grounded c r := by
  rcases a.dismiss?_getD_cases with ⟨same | cleared, _⟩
  · rw [same]
    exact grounded.selection
  · rw [cleared]
    trivial

/-- Every action keeps the selection grounded. -/
theorem grounded_handle (now : Nat) (action : Action) (grounded : a.Grounded c r) :
    (a.handle now action).app.Grounded c r := by
  obtain ⟨catalog, registry, _⟩ : (a.handle now action).app.catalog = a.catalog ∧
      (a.handle now action).app.registry = a.registry ∧ _ := by
    simpa only [fixtures, Prod.mk.injEq] using a.fixtures_handle now action
  refine ⟨catalog.trans grounded.catalog, registry.trans grounded.registry, ?_⟩
  cases concerned : action.concernsNotice with
  | false =>
      have same : (a.handle now action).app.selection = a.selection :=
        congrArg Prod.fst (a.told_handle now concerned)
      rw [same]
      exact grounded.selection
  | true =>
      cases action with
      | tick =>
          simp only [handle, tick_eq]
          exact grounded.selection
      | openSelected =>
          change (a.openHighlighted now).1.selection.state.Grounded c r
          unfold openHighlighted
          split
          next e highlighted =>
            exact grounded_openEntry grounded now
              (mem_entries_of_highlighted? grounded highlighted)
          next nothing => exact grounded.selection
      | retrySelection =>
          simp only [handle]
          split
          next b job tried => exact grounded_retry? grounded tried
          next nothing => exact grounded.selection
      | dismiss => exact grounded_dismiss? grounded
      | loaded report => exact grounded_receive grounded now report
      | _ => cases concerned

/-- Every run keeps the selection grounded. -/
theorem grounded_run (grounded : a.Grounded c r) (steps : List (Nat × Action)) :
    (a.run steps).Grounded c r :=
  run_induction (fun _ now action grounded => grounded_handle now action grounded) grounded steps

end

theorem grounded_startReporting (c : Catalog) (r : Registry α) (timeout : Duration) (ms : Nat)
    (audit : Option (Nat × Registry.Audit)) (fault : Option (Nat × Fault)) :
    (startReporting c r timeout ms audit fault).Grounded c r := by
  obtain ⟨notice, redraw, begun⟩ := startReporting_eq_with c r timeout ms audit fault
  rw [begun]
  exact ⟨rfl, rfl, trivial⟩

end App

/-- The audit of a registry, however it was built, foretells the misses.  The missing keys are those
of the entries whose selection ends in the fault of a missing loader, in the order of the catalog
and each once.  The orphans increase, and they are the places of registrations that no key of the
catalog leads to.  Loaders are as many as entries without the missing and with the orphans, and the
audit is clean exactly when keys and places correspond one to one.  If strictness lets the start
pass, then no run ends in a miss; if not, then the fault names exactly the missing keys. -/
theorem audit_foretells_misses (base : String) (registrations : List (Registry.Registration α))
    (c : Catalog) :
    let r := Registry.ofRegistrations base registrations
    let audit := r.audit c
    (∀ s : Selection, audit.missing =
      (c.entries.filter fun e => (s.select r e).1.state.fault?.any Fault.isNoLoader).map
        (·.key)) ∧
    audit.missing.Nodup ∧
    audit.orphans.Pairwise (· < ·) ∧
    (∀ path, path ∈ audit.orphans ↔
      path ∈ r.paths ∧ ∀ key ∈ c.keys, Registry.virtualPath base key ≠ path) ∧
    (∀ path, path ∈ r.paths ↔
      ∃ registration ∈ registrations, registration.place base = path) ∧
    audit.missing.length ≤ c.size ∧
    r.size = c.size - audit.missing.length + audit.orphans.length ∧
    (audit.isClean = true ↔
      Set.BijOn (Registry.virtualPath base) {key | key ∈ c.keys} {path | path ∈ r.paths}) ∧
    (audit.enforce true = .ok () →
      ∀ (timeout : Duration) (ms : Nat) (told : Option (Nat × Registry.Audit))
        (fault : Option (Nat × Fault)) (steps : List (Nat × Action)),
        let a := (App.startReporting c r timeout ms told fault).run steps
        ∀ e key path, a.selection.state ≠ .failed e (.noLoader key path)) ∧
    (∀ fault, audit.enforce true = .error fault →
      fault = .uncovered audit.missing ∧ audit.missing ≠ []) := by
  intro r audit
  have base_eq : r.base = base := Registry.base_ofRegistrations base registrations
  have place_eq : r.place = Registry.virtualPath base := by
    funext key
    rw [Registry.place, base_eq]
  have increasing : r.paths.Pairwise (· < ·) := Registry.pairwise_paths base registrations
  have few : audit.missing.length ≤ c.size := by
    have shorter : audit.missing.length ≤ c.keys.length := List.length_filter_le _ _
    have entries : c.keys.length = c.size := List.length_map _
    omega
  refine ⟨r.missing_eq c, c.distinct.filter _, increasing.filter _, ?_,
    fun path => Registry.mem_paths_iff base registrations, few, ?_, ?_, ?_, ?_⟩
  · intro path
    rw [← place_eq]
    exact Registry.mem_orphans_iff
  · have counted : r.size + audit.missing.length = c.size + audit.orphans.length :=
      Registry.size_add_missing increasing c
    omega
  · rw [← place_eq]
    exact r.isClean_iff_bijOn c
  · intro passed timeout ms told fault steps a e key path missed
    have grounded : a.Grounded c r :=
      App.grounded_run (App.grounded_startReporting c r timeout ms told fault) steps
    have shown : a.selection.state.fault? = some (.noLoader key path) := by
      rw [missed]
      rfl
    obtain ⟨e, _, _, missing⟩ := grounded.selection.mem_missing shown rfl
    rw [(Registry.enforce_eq_ok_iff audit).1 passed] at missing
    cases missing
  · intro fault refused
    refine ⟨Registry.eq_uncovered_of_enforce refused, ?_⟩
    intro none
    rw [(Registry.enforce_eq_ok_iff audit).2 none] at refused
    cases refused

/-- The one key has a loader and another loader is to spare: strictness lets the start pass, and no
run misses it.  Under another base the loader is not where the key leads to, and the fault names
the key. -/
theorem spare_loader_passes_and_misplaced_one_does_not :
    let c : Catalog := ⟨[⟨"a.rs", "A", "Basics", ""⟩], by decide, by decide⟩
    let r : Registry Unit :=
      Registry.ofRegistrations "samples//" [.atKey "a.rs" (), .atPath "spare" ()]
    let misplaced : Registry Unit := Registry.ofRegistrations "other" [.atPath "samples/a.rs" ()]
    (r.audit c).enforce true = .ok () ∧
    (∀ steps e key path,
      ((App.startReporting c r ⟨0⟩ 3000 none none).run steps).selection.state ≠
        .failed e (.noLoader key path)) ∧
    (misplaced.audit c).enforce true = .error (.uncovered ["a.rs"]) ∧
    (misplaced.audit c).missing ≠ [] := by
  intro c r misplaced
  have passed : (r.audit c).enforce true = .ok () := by decide +kernel
  have refused : (misplaced.audit c).enforce true = .error (.uncovered ["a.rs"]) := by
    decide +kernel
  obtain ⟨_, _, _, _, _, _, _, _, noMiss, _⟩ :=
    audit_foretells_misses "samples//" [.atKey "a.rs" (), .atPath "spare" ()] c
  obtain ⟨_, _, _, _, _, _, _, _, _, named⟩ :=
    audit_foretells_misses "other" [.atPath "samples/a.rs" ()] c
  exact ⟨passed, noMiss passed ⟨0⟩ 3000 none none, refused, (named _ refused).2⟩

end Showcase
