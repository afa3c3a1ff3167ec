import Showcase.Duration
import Showcase.Registry.Basic

/-!
# Selections

At most one entry is selected at a time.  Selecting starts a load of its source; when the load
reports back the source is shown or the fault is.  Loads are never stopped, so a report may come
late.  Every selection has a number, its *generation*, which its load carries, and only a report of
the current generation counts.

`Selection.select` also says which load is to be started.  Running it is not the selection's
concern; what happens between a start and a report is in the module on traffic.
-/

namespace Showcase

/-- What is selected and how far its load has come. -/
inductive Selection.State where
  /-- Nothing is selected. -/
  | idle
  /-- The source of the entry is on its way. -/
  | loading (entry : Entry)
  /-- The source of the entry is there. -/
  | ready (entry : Entry) (text : String)
  /-- The source of the entry could not be had. -/
  | failed (entry : Entry) (fault : Fault)
  deriving DecidableEq, Repr

/-- The selection and the number of selections so far.  They are counted without bound; fewer than
2 ^ 64 are meant, so that the number fits into 64 bits. -/
structure Selection where
  /-- What is selected. -/
  state : Selection.State := .idle
  /-- The number of the latest selection, meant to be below 2 ^ 64. -/
  generation : Nat := 0
  deriving DecidableEq, Repr

/-- A load to be started. -/
structure Job (α : Type) where
  /-- The number of the selection that wants it. -/
  generation : Nat
  /-- The key of the entry. -/
  key : String
  /-- The loader to run. -/
  loader : α

/-- What a load reports when it is over. -/
structure Report where
  /-- The number of the selection that wanted it. -/
  generation : Nat
  /-- The key of the entry. -/
  key : String
  /-- The source, or what went wrong. -/
  result : Except Fault String
  /-- How long the load took. -/
  elapsed : Duration := ⟨0⟩

/-- What a selection makes of a report. -/
inductive Completion where
  /-- The source is shown. -/
  | ready
  /-- The fault is shown. -/
  | failed
  /-- The report is not about the current load. -/
  | stale
  deriving DecidableEq, Repr

namespace Selection

/-- The selected entry. -/
def State.entry? : State → Option Entry
  | idle => none
  | loading e | ready e _ | failed e _ => some e

/-- The fault that is shown. -/
def State.fault? : State → Option Fault
  | failed _ fault => some fault
  | _ => none

/-- The source that is shown. -/
def State.text? : State → Option String
  | ready _ text => some text
  | _ => none

/-- A word for the state. -/
def State.label : State → String
  | idle => "idle"
  | loading _ => "loading"
  | ready _ _ => "ready"
  | failed _ _ => "error"

/-- Whether a source is on its way. -/
def State.isLoading : State → Bool
  | loading _ => true
  | _ => false

/-- Whether a source is shown. -/
def State.isReady : State → Bool
  | ready _ _ => true
  | _ => false

/-- Whether a fault is shown. -/
def State.isFailed : State → Bool
  | failed _ _ => true
  | _ => false

variable {α : Type}

/-- Selects an entry: its load is to be started, or there is no loader for it. -/
def select (s : Selection) (r : Registry α) (e : Entry) : Selection × Option (Job α) :=
  let generation := s.generation + 1
  match r.resolve? e.key with
  | some loader => (⟨.loading e, generation⟩, some ⟨generation, e.key, loader⟩)
  | none => (⟨.failed e (.noLoader e.key (r.place e.key)), generation⟩, none)

/-- Selects the entry once more whose fault is shown. -/
def retry? (s : Selection) (r : Registry α) : Option (Selection × Option (Job α)) :=
  match s.state with
  | .failed e _ => some (s.select r e)
  | _ => none

/-- The fault of a load that did not succeed. -/
def loadFault (e : Entry) (cause : Fault) : Fault := .loadFailed e.title e.key cause.message

/-- Takes a report: it counts only if it is of the current generation and a source is awaited. -/
def complete (s : Selection) (generation : Nat) (result : Except Fault String) :
    Completion × Selection :=
  if generation = s.generation then
    match s.state, result with
    | .loading e, .ok text => (.ready, { s with state := .ready e text })
    | .loading e, .error cause => (.failed, { s with state := .failed e (loadFault e cause) })
    | _, _ => (.stale, s)
  else (.stale, s)

/-- Closes the source or the fault that is shown. -/
def dismiss? (s : Selection) : Option Selection :=
  match s.state with
  | .ready _ _ | .failed _ _ => some { s with state := .idle }
  | _ => none

/-- A selection shown to a developer. -/
def debug (s : Selection) (timeout : Duration) : String :=
  "SelectionController \x7b state: " ++ Text.quoted s.state.label ++ ", generation: " ++
    toString s.generation ++ ", load_timeout: " ++ timeout.short ++ " \x7d"

/-! ## What the operations do -/

theorem State.isLoading_of_isReady {state : State} (shown : state.isReady = true) :
    state.isLoading = false := by
  cases state with
  | loading e => cases shown
  | _ => rfl

theorem State.isLoading_of_isFailed {state : State} (shown : state.isFailed = true) :
    state.isLoading = false := by
  cases state with
  | loading e => cases shown
  | _ => rfl

theorem select_of_loader (s : Selection) {r : Registry α} {e : Entry} {loader : α}
    (found : r.resolve? e.key = some loader) :
    s.select r e =
      (⟨.loading e, s.generation + 1⟩, some ⟨s.generation + 1, e.key, loader⟩) := by
  simp only [select, found]

theorem select_of_no_loader (s : Selection) {r : Registry α} {e : Entry}
    (missing : r.resolve? e.key = none) :
    s.select r e =
      (⟨.failed e (.noLoader e.key (r.place e.key)), s.generation + 1⟩, none) := by
  simp only [select, missing]

/-- Only a failed entry can be tried again, and trying again is selecting it. -/
theorem retry?_eq_some_iff {s : Selection} {r : Registry α}
    {answer : Selection × Option (Job α)} :
    s.retry? r = some answer ↔ ∃ e fault, s.state = .failed e fault ∧ s.select r e = answer := by
  unfold retry?
  cases s.state with
  | idle => simp
  | loading e => simp
  | ready e text => simp
  | failed e fault => simp

/-- A report of another generation changes nothing. -/
theorem complete_of_ne {s : Selection} {g : Nat} (other : g ≠ s.generation)
    (result : Except Fault String) : s.complete g result = (.stale, s) := by
  simp only [complete, other, if_false]

/-- The awaited source is shown. -/
theorem complete_ok {s : Selection} {e : Entry} (awaited : s.state = .loading e) (text : String) :
    s.complete s.generation (.ok text) = (.ready, { s with state := .ready e text }) := by
  simp only [complete, if_true, awaited]

/-- The fault of the awaited load is shown. -/
theorem complete_error {s : Selection} {e : Entry} (awaited : s.state = .loading e)
    (cause : Fault) :
    s.complete s.generation (.error cause) =
      (.failed, { s with state := .failed e (loadFault e cause) }) := by
  simp only [complete, if_true, awaited]

/-- A report comes to nothing, or it is the awaited one and brings the source or a fault. -/
theorem complete_cases (s : Selection) (g : Nat) (result : Except Fault String) :
    ((g ≠ s.generation ∨ s.state.isLoading = false) ∧ s.complete g result = (.stale, s)) ∨
    (∃ e text, g = s.generation ∧ s.state = .loading e ∧ result = .ok text ∧
      s.complete g result = (.ready, { s with state := .ready e text })) ∨
    (∃ e cause, g = s.generation ∧ s.state = .loading e ∧ result = .error cause ∧
      s.complete g result = (.failed, { s with state := .failed e (loadFault e cause) })) := by
  by_cases current : g = s.generation
  · subst current
    cases state : s.state with
    | loading e =>
        cases result with
        | ok text => exact Or.inr (Or.inl ⟨e, text, rfl, rfl, rfl, complete_ok state text⟩)
        | error cause =>
            exact Or.inr (Or.inr ⟨e, cause, rfl, rfl, rfl, complete_error state cause⟩)
    | _ => exact Or.inl ⟨Or.inr rfl, by simp only [complete, if_true, state]⟩
  · exact Or.inl ⟨Or.inl current, complete_of_ne current result⟩

/-- A report never changes the number of the selection. -/
theorem complete_generation (s : Selection) (g : Nat) (result : Except Fault String) :
    (s.complete g result).2.generation = s.generation := by
  rcases s.complete_cases g result with ⟨_, completed⟩ | ⟨e, text, _, _, _, completed⟩ |
    ⟨e, cause, _, _, _, completed⟩ <;> rw [completed]

/-- Closing leaves nothing selected, but a source on its way cannot be closed. -/
theorem dismiss?_getD (s : Selection) :
    s.dismiss?.getD s = if s.state.isLoading then s else { s with state := .idle } := by
  obtain ⟨state, generation⟩ := s
  cases state <;> rfl

end Selection

end Showcase
