import Showcase.App.State
import Showcase.Journal.Basic

/-!
# What actions leave in the journal

`App.records` says what performing an action records, given the state before it and the state
after it.  Keeping the journal apart from `App.handle` leaves the state free of it.

Two records tell how long a load took.  How that is written is an argument, since the time that
really passed is known only outside.
-/

namespace Showcase

open Journal

/-- How the times of a load are written: what its run took, and how long it was waited for. -/
structure LoadTimes where
  /-- What the run took. -/
  run : String
  /-- How long it was waited for. -/
  wait : String

namespace Selection

variable {α : Type}

/-- The record of selecting an entry. -/
def selectRecord (s : Selection) (r : Registry α) (e : Entry) : Record :=
  if r.contains e.key then
    ⟨.debug, .selection,
      "Selected " ++ e.key ++ " (generation " ++ toString (s.generation + 1) ++ ")"⟩
  else
    ⟨.warn, .selection,
      "Registry miss: catalog entry " ++ e.key ++ " has no loader at " ++ r.place e.key⟩

/-- The record of taking a report. -/
def completeRecord (s : Selection) (times : LoadTimes) (report : Report) : Record :=
  if report.generation ≠ s.generation then
    ⟨.debug, .selection,
      "Discarding stale load result (generation " ++ toString report.generation ++ ", current " ++
        toString s.generation ++ ")"⟩
  else
    match s.state, report.result with
    | .loading e, .ok text =>
      ⟨.info, .selection,
        "Loaded " ++ e.key ++ " (" ++ toString text.utf8ByteSize ++ " bytes in " ++ times.wait ++
          ")"⟩
    | .loading e, .error cause => ⟨.warn, .selection, (loadFault e cause).message⟩
    | _, _ =>
      ⟨.debug, .selection,
        "Load result for generation " ++ toString report.generation ++
          " arrived outside loading"⟩

/-- The record of closing what is shown, if anything is. -/
def dismissRecord (s : Selection) : List Record :=
  match s.dismiss? with
  | some _ => [⟨.debug, .selection, "Dismissed " ++ s.state.label ++ " selection"⟩]
  | none => []

end Selection

namespace App

variable {α : Type}

/-- The record of computing the visible entries. -/
def filterRecord (a : App α) : Record :=
  ⟨.debug, .state,
    "Filter category=" ++ a.filter.category ++ " query=" ++ Text.quoted a.filter.query ++ ": " ++
      toString a.visible.length ++ " of " ++ toString a.catalog.size ++ " entries"⟩

/-- The record of telling of a fault. -/
def faultRecord (fault : Fault) : Record :=
  ⟨.info, .state, "Reporting error to user: " ++ fault.message⟩

/-- What an action records beyond that it is performed. -/
def detailRecords (before after : App α) (times : LoadTimes) : Action → List Record
  | .quit => [⟨.info, .actions, "Quit requested"⟩]
  | .queryInput _ | .clearQuery | .nextCategory | .prevCategory => [after.filterRecord]
  | .queryBackspace => if before.filter.pop?.isSome then [after.filterRecord] else []
  | .openSelected =>
    match before.highlighted? with
    | some e => [before.selection.selectRecord before.registry e]
    | none => []
  | .retrySelection =>
    match before.selection.state with
    | .failed e _ =>
      [⟨.info, .selection, "Retrying load of " ++ e.key⟩,
        before.selection.selectRecord before.registry e]
    | _ => []
  | .dismiss =>
    if before.view.help then []
    else if before.selection.state.isReady || before.view.notice.isSome then
      before.selection.dismissRecord
    else []
  | .loaded report =>
    [⟨.debug, .state, "Load of " ++ report.key ++ " finished in " ++ times.run⟩,
      before.selection.completeRecord times report]
  | _ => []

/-- What an action records.  Ticks are too many to be recorded. -/
def records (before after : App α) (times : LoadTimes) (action : Action) : List Record :=
  match action with
  | .tick => []
  | action =>
    ⟨.debug, .actions, "Dispatching action: " ++ action.debug⟩ ::
      detailRecords before after times action

end App

end Showcase
