import Showcase.Proofs.App.Run
import Showcase.Proofs.Catalog.Filter

/-!
# List, cursor and filter

The list is kept as places in the catalog, beside the filter it comes from, and the cursor as a row
of the list.  Neither is checked when it is read.  `Browsing.InStep` says how the three belong
together: the list is the one that the filter gives, the cursor is on a row of it, and the category
can be chosen.

An edit of the filter computes the list anew and puts the cursor back on it, whatever row it was on
before.  A move of the cursor starts from a row of the list and ends on one.  All other actions
leave all three alone.  So every run is in step (`list_cursor_filter_in_step`), and then no place
points past the catalog and no row past the list.
-/

namespace Showcase

variable {α : Type}

/-! ## Rows -/

/-- A cursor is on one of `len` rows, or there are no rows and no cursor. -/
def OnRow (len : Nat) : Option Nat → Prop
  | none => len = 0
  | some row => row < len

theorem OnRow.eq_none_iff {len : Nat} {cursor : Option Nat} (on : OnRow len cursor) :
    cursor = none ↔ len = 0 := by
  cases cursor with
  | none => exact ⟨fun _ => on, fun _ => rfl⟩
  | some row =>
      have inside : row < len := on
      simp only [reduceCtorEq, false_iff]
      omega

namespace View

theorem onRow_clampCursor (v : View) (len : Nat) : OnRow len (v.clampCursor len).cursor := by
  unfold clampCursor
  dsimp only
  split
  next empty => exact empty
  next rows =>
    change min (v.cursor.getD 0) (len - 1) < len
    omega

theorem onRow_cursorFirst (v : View) (len : Nat) : OnRow len (v.cursorFirst len).cursor := by
  unfold cursorFirst
  dsimp only
  split
  next empty => exact empty
  next rows => exact Nat.pos_of_ne_zero rows

theorem onRow_cursorLast (v : View) (len : Nat) : OnRow len (v.cursorLast len).cursor := by
  unfold cursorLast
  dsimp only
  split
  next empty => exact empty
  next rows =>
    change len - 1 < len
    omega

theorem onRow_cursorUp {v : View} {len : Nat} (on : OnRow len v.cursor) :
    OnRow len (v.cursorUp len).cursor := by
  unfold cursorUp
  split
  next empty => exact on
  next rows =>
    cases before : v.cursor with
    | none => exact Nat.pos_of_ne_zero rows
    | some row =>
        rw [before] at on
        change row - 1 < len
        exact Nat.lt_of_le_of_lt (Nat.sub_le row 1) on

theorem onRow_cursorDown {v : View} {len : Nat} (on : OnRow len v.cursor) :
    OnRow len (v.cursorDown len).cursor := by
  unfold cursorDown
  split
  next empty => exact on
  next rows =>
    cases v.cursor with
    | none => exact Nat.pos_of_ne_zero rows
    | some row =>
        change min (row + 1) (len - 1) < len
        omega

end View

/-! ## The invariant -/

/-- List, cursor and filter over a catalog belong together. -/
structure Browsing.InStep (c : Catalog) (b : Browsing) : Prop where
  /-- The catalog is the one of the start. -/
  catalog : b.catalog = c
  /-- The categories are those of the catalog. -/
  categories : b.categories = c.categories
  /-- The category of the filter can be chosen. -/
  category : b.filter.category ∈ c.categories
  /-- The list is the one that the filter gives. -/
  visible : b.visible = b.filter.indices c.entries
  /-- The cursor is on a row of the list. -/
  cursor : OnRow b.visible.length b.cursor

namespace App

/-- A new filter brings its own list, so only its category is to be checked. -/
theorem inStep_refilter {c : Catalog} {a : App α} (inStep : a.browsing.InStep c) {f : Filter}
    (category : f.category ∈ c.categories) : (a.refilter f).browsing.InStep c where
  catalog := inStep.catalog
  categories := inStep.categories
  category := category
  visible := congrArg (fun c : Catalog => f.indices c.entries) inStep.catalog
  cursor := a.view.onRow_clampCursor _

/-- A cursor that is moved is to be on a row, and nothing else moves. -/
theorem inStep_reshow {c : Catalog} {a : App α} (inStep : a.browsing.InStep c) {view : View}
    (cursor : OnRow a.visible.length view.cursor) : (a.reshow view).browsing.InStep c where
  catalog := inStep.catalog
  categories := inStep.categories
  category := inStep.category
  visible := inStep.visible
  cursor := cursor

theorem inStep_start (c : Catalog) (r : Registry α) (timeout : Duration) (view : View) :
    (start c r timeout view).browsing.InStep c where
  catalog := rfl
  categories := rfl
  category := c.everything_mem_categories
  visible := rfl
  cursor := view.onRow_clampCursor _

/-- Every action keeps list, cursor and filter in step. -/
theorem inStep_handle {c : Catalog} {a : App α} (now : Nat) (action : Action)
    (inStep : a.browsing.InStep c) : (a.handle now action).app.browsing.InStep c := by
  have categories : a.categories = c.categories := inStep.categories
  have category : a.filter.category ∈ c.categories := inStep.category
  cases browses : action.browses with
  | false =>
      rw [a.browsing_handle now browses]
      exact inStep
  | true =>
      cases action with
      | queryInput char => exact inStep_refilter inStep category
      | queryBackspace =>
          simp only [handle]
          split
          next shorter dropped =>
            apply inStep_refilter inStep
            rw [Filter.category_pop? dropped]
            exact category
          next empty => exact inStep
      | clearQuery => exact inStep_refilter inStep category
      | nextCategory =>
          apply inStep_refilter inStep
          rw [categories]
          exact Filter.category_stepCategory_mem category _
      | prevCategory =>
          apply inStep_refilter inStep
          rw [categories]
          exact Filter.category_stepCategory_mem category _
      | moveUp => exact inStep_reshow inStep (View.onRow_cursorUp inStep.cursor)
      | moveDown => exact inStep_reshow inStep (View.onRow_cursorDown inStep.cursor)
      | selectFirst => exact inStep_reshow inStep (a.view.onRow_cursorFirst _)
      | selectLast => exact inStep_reshow inStep (a.view.onRow_cursorLast _)
      | _ => cases browses

/-- Every run keeps list, cursor and filter in step. -/
theorem inStep_run {c : Catalog} {a : App α} (inStep : a.browsing.InStep c)
    (steps : List (Nat × Action)) : (a.run steps).browsing.InStep c :=
  run_induction (P := fun a => a.browsing.InStep c)
    (fun _ now action inStep => inStep_handle now action inStep) inStep steps

/-! ## What is read off the list -/

section

variable {c : Catalog} {a : App α} (inStep : a.browsing.InStep c)
include inStep

theorem pairwise_visible : a.visible.Pairwise (· < ·) := by
  have visible : a.visible = a.filter.indices c.entries := inStep.visible
  rw [visible]
  exact a.filter.pairwise_indices c.entries

theorem lt_size_of_mem_visible {i : Nat} (member : i ∈ a.visible) : i < a.catalog.size := by
  have visible : a.visible = a.filter.indices c.entries := inStep.visible
  have catalog : a.catalog = c := inStep.catalog
  rw [visible] at member
  rw [catalog]
  exact Filter.lt_of_mem_indices member

theorem isSome_entry_of_mem_visible {i : Nat} (member : i ∈ a.visible) :
    (a.catalog.entries[i]?).isSome = true := by
  rw [List.getElem?_eq_getElem (lt_size_of_mem_visible inStep member)]
  rfl

/-- No visible place is without an entry. -/
theorem map_some_visibleEntries :
    a.visibleEntries.map some = a.visible.map (a.catalog.entries[·]?) := by
  rw [visibleEntries, List.map_filterMap_some_eq_filter_map_isSome, List.filter_eq_self]
  intro entry? member
  obtain ⟨i, shown, rfl⟩ := List.mem_map.1 member
  exact isSome_entry_of_mem_visible inStep shown

/-- An entry is highlighted whenever there is one to highlight. -/
theorem isSome_highlighted?_iff : a.highlighted?.isSome = true ↔ a.visible ≠ [] := by
  have cursor : OnRow a.visible.length a.view.cursor := inStep.cursor
  constructor
  · rintro highlighted empty
    simp [highlighted?, empty] at highlighted
  · intro rows
    cases there : a.view.cursor with
    | none =>
        rw [there] at cursor
        exact absurd (List.length_eq_zero_iff.1 cursor) rows
    | some row =>
        rw [there] at cursor
        obtain ⟨place, placed⟩ : ∃ place, a.visible[row]? = some place :=
          ⟨_, List.getElem?_eq_getElem cursor⟩
        have entry := isSome_entry_of_mem_visible inStep (List.mem_of_getElem? placed)
        simpa [highlighted?, there, placed] using entry

end

/-- In every run, the list is the one that the filter gives, so its places increase and stay below
the size of the catalog.  There is no cursor exactly when the list is empty, and else it is on a
row of the list.  An entry is highlighted exactly when the list is not empty, and every visible
place has its entry.  The category can be chosen, and catalog and categories never change. -/
theorem list_cursor_filter_in_step (c : Catalog) (r : Registry α) (timeout : Duration) (ms : Nat)
    (steps : List (Nat × Action)) :
    let a := (start c r timeout { infoMs := ms }).run steps
    a.visible = a.filter.indices a.catalog.entries ∧
    a.visible.Pairwise (· < ·) ∧
    (∀ i ∈ a.visible, i < a.catalog.size) ∧
    (a.view.cursor = none ↔ a.visible = []) ∧
    (∀ row, a.view.cursor = some row → row < a.visible.length) ∧
    (a.highlighted?.isSome = true ↔ a.visible ≠ []) ∧
    a.visibleEntries.map some = a.visible.map (a.catalog.entries[·]?) ∧
    a.filter.category ∈ a.categories ∧
    a.categories = c.categories ∧
    a.catalog = c := by
  intro a
  have inStep : a.browsing.InStep c := inStep_run (inStep_start c r timeout _) steps
  have catalog : a.catalog = c := inStep.catalog
  have categories : a.categories = c.categories := inStep.categories
  have cursor : OnRow a.visible.length a.view.cursor := inStep.cursor
  refine ⟨?_, pairwise_visible inStep, fun i => lt_size_of_mem_visible inStep, ?_, ?_,
    isSome_highlighted?_iff inStep, map_some_visibleEntries inStep, ?_, categories, catalog⟩
  · rw [catalog]
    exact inStep.visible
  · rw [cursor.eq_none_iff, List.length_eq_zero_iff]
  · intro row there
    rw [there] at cursor
    exact cursor
  · rw [categories]
    exact inStep.category

end App

end Showcase
