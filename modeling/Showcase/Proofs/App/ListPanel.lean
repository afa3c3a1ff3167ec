import Showcase.App.Panels
import Showcase.Proofs.App.Browsing
import Showcase.Proofs.App.Events
import Showcase.Proofs.Screen.Listing

/-!
# What the list shows

The cursor is read in three places: the list is drawn around it, the entry under it is the one that
is highlighted, and that entry is opened.  All three mean the same entry, and it is always on the
screen (`list_shows_what_is_opened`).

`ShowsEntry` says what the two rows of an entry show: the mark or blanks, then its lines, and the
look of the highlight in all cells or in none.  A symbol alone does not tell the mark, since a title
may begin with the same sign; its column does.  The look is told by its ground, a colour that
nothing else in the list has, so that cells without it are found by a relation that all parts of the
drawing keep (`Cell.Off`).
-/

namespace Showcase

open Screen

variable {α : Type}

namespace App

/-! ## Rows of an entry -/

/-- The text of the two rows of an entry. -/
def entryTexts (e : Entry) : List (List Char) :=
  [(e.title ++ "  [" ++ e.category ++ "]  " ++ e.key).toList, ("  " ++ e.description).toList]

theorem map_chars_entryLines (e : Entry) : (entryLines e).map Line.chars = entryTexts e := by
  simp [entryLines, entryTexts, Line.chars, Line.ofSpan, Span.plain, Span.styled]

/-- An entry stands in two rows of a panel, drawn over what was there before. -/
structure ShowsEntry (drawn before : Frame) (panel : Rect) (row : Nat) (e : Entry) (lit : Bool) :
    Prop where
  /-- The rows are in the panel. -/
  inside : row + 2 ≤ panel.height
  /-- The mark stands before the first row of the entry under the cursor, and there are blanks
  before all other rows. -/
  mark : ∀ i < 2,
    drawn.symbolAt panel.x (panel.y + row + i) =
        (if lit = true ∧ i = 0 then ['▶'] else [' ']) ∧
      drawn.symbolAt (panel.x + 1) (panel.y + row + i) = [' ']
  /-- After it the rows show the lines of the entry. -/
  line : ∀ i l, (entryLines e)[i]? = some l → ∀ column, 2 ≤ column → column < panel.width →
    drawn.symbolAt (panel.x + column) (panel.y + row + i) =
      (l.draw before ⟨panel.x + 2, panel.y + row + i, panel.width - 2, 1⟩).symbolAt
        (panel.x + column) (panel.y + row + i)
  /-- Printable text is shown character by character. -/
  text : ∀ i cs, (entryTexts e)[i]? = some cs → Text.Printable cs →
    ∀ column, 2 + column < panel.width →
      drawn.symbolAt (panel.x + 2 + column) (panel.y + row + i) =
        (cs[column]?.map ([·])).getD (before.symbolAt (panel.x + 2 + column) (panel.y + row + i))
  /-- The rows of the entry under the cursor look highlighted, and no others do. -/
  look : ∀ i < 2, ∀ column < panel.width,
    (drawn.cellAt (panel.x + column) (panel.y + row + i)).Wears Palette.highlight ↔ lit = true

/-! ## The mark -/

theorem isNarrow_mark : (Span.plain "▶ ").IsNarrow where
  glyphs := by
    unfold Narrow
    decide +kernel
  width := by decide +kernel

theorem width_mark (a : App α) : a.listing.mark.width = 2 :=
  (by decide +kernel : (Span.plain "▶ ").width = 2)

theorem symbols_markSpan (a : App α) (lit : Bool) (i : Nat) :
    (a.listing.markSpan lit i).glyphs.map (·.symbol) =
      [if lit = true ∧ i = 0 then ['▶'] else [' '], [' ']] := by
  have marked : (Span.mk "▶ ".toList Palette.panel).glyphs.map (·.symbol) = [['▶'], [' ']] := by
    decide +kernel
  have blank : (Span.mk (List.replicate 2 ' ') Palette.panel).glyphs.map (·.symbol) =
      [[' '], [' ']] := by
    decide +kernel
  rw [Listing.markSpan, width_mark]
  by_cases first : lit = true ∧ i = 0
  · rw [if_pos first, if_pos (by simpa using first)]
    exact marked
  · rw [if_neg first, if_neg (by simpa using first)]
    exact blank

/-! ## The listing -/

section Listing

variable {c : Catalog} {a : App α} (inStep : a.browsing.InStep c)

include inStep

theorem getElem?_visibleEntries (k : Nat) :
    a.visibleEntries[k]? = a.visible[k]?.bind (a.catalog.entries[·]?) := by
  have same := congrArg (·[k]?) (map_some_visibleEntries inStep)
  simp only [List.getElem?_map] at same
  calc a.visibleEntries[k]? = (a.visibleEntries[k]?.map some).join := by
        cases a.visibleEntries[k]? <;> rfl
    _ = (a.visible[k]?.map (a.catalog.entries[·]?)).join := by rw [same]
    _ = a.visible[k]?.bind (a.catalog.entries[·]?) := by cases a.visible[k]? <;> rfl

theorem length_visibleEntries : a.visibleEntries.length = a.visible.length := by
  have same := congrArg List.length (map_some_visibleEntries inStep)
  rwa [List.length_map, List.length_map] at same

theorem length_items : a.listing.items.length = a.visible.length := by
  rw [listing, List.length_map, length_visibleEntries inStep]

theorem exists_cursor (listed : a.visible ≠ []) :
    ∃ s, a.view.cursor = some s ∧ s < a.visible.length := by
  have onRow : OnRow a.visible.length a.view.cursor := inStep.cursor
  cases there : a.view.cursor with
  | none =>
      rw [there] at onRow
      exact absurd (List.length_eq_zero_iff.1 onRow) listed
  | some s =>
      rw [there] at onRow
      exact ⟨s, rfl, onRow⟩

/-- The cursor is on a row of the list, so the listing need not move it. -/
theorem current_listing {s : Nat} (cursor : a.view.cursor = some s) :
    a.listing.current = some s := by
  have onRow : OnRow a.visible.length a.view.cursor := inStep.cursor
  rw [cursor] at onRow
  have inList : s < a.visible.length := onRow
  rw [Listing.current, length_items inStep]
  simp only [listing, cursor, Option.map_some]
  rw [Nat.min_eq_left (by omega)]

variable {s : Nat} (cursor : a.view.cursor = some s)

include cursor

theorem highlighted?_eq : a.highlighted? = a.visibleEntries[s]? := by
  rw [highlighted?, cursor, getElem?_visibleEntries inStep]
  rfl

theorem first_listing (room : Nat) : a.listing.first room = s + 1 - room := by
  rw [Listing.first, current_listing inStep cursor, Option.getD_some]

end Listing

/-- The panel itself is not highlighted. -/
theorem off_under (a : App α) {f : Frame} {area : Rect} (inFrame : area.Inside f.area) {x y : Nat}
    (has : area.inner.has x y = true) :
    Cell.Off Palette.cursorRow ((a.listing.under f area).cellAt x y)
      ((a.listing.under f area).cellAt x y) := by
  have here := Rect.has_of_has_inner has
  have styled : Cell.Off Palette.cursorRow ((f.restyle area Palette.panel).cellAt x y)
      ((f.restyle area Palette.panel).cellAt x y) := by
    rw [Cell.Off, (f.wears_restyle Palette.panel (Frame.lt_of_has inFrame here) here).ground rfl]
    decide
  have bare : a.listing.box.style.bg ≠ some Palette.cursorRow := (Option.some_ne_none _).symm
  have boxed : Drawing (fun _ _ => True) (Cell.Off Palette.cursorRow)
      (·.restyle area a.listing.box.style) := .restyle (fun _ _ _ => trivial) (Style.bears_off bare)
  rw [a.listing.cellAt_under f has]
  exact boxed.related rfl rfl styled

/-! ## Entries in their rows -/

theorem narrow_listing (a : App α) : a.listing.mark.IsNarrow := isNarrow_mark

theorem short_listing (a : App α) :
    ∀ lines ∈ a.listing.items, lines.length ≤ a.listing.itemHeight := by
  intro lines member
  obtain ⟨e, _, rfl⟩ := List.mem_map.1 member
  exact Nat.le_refl 2

theorem bears_entryLines (e : Entry) : ∀ line ∈ entryLines e, ∀ s ∈ line.spans,
    s.style.Bears (Cell.Off Palette.cursorRow) := by
  intro line member s inLine
  have bare : s.style.bg = none := by
    simp only [entryLines, List.mem_cons, List.not_mem_nil, or_false] at member
    rcases member with rfl | rfl
    · simp only [List.mem_cons, List.not_mem_nil, or_false] at inLine
      rcases inLine with rfl | rfl | rfl | rfl <;> rfl
    · rw [List.mem_singleton.1 inLine]
      rfl
  have other : s.style.bg ≠ some Palette.cursorRow := by
    rw [bare]
    exact (Option.some_ne_none _).symm
  exact Style.bears_off other

theorem align_entryLines (e : Entry) : ∀ line ∈ entryLines e, line.align.getD .left = .left := by
  intro line member
  simp only [entryLines, List.mem_cons, List.not_mem_nil, or_false] at member
  rcases member with rfl | rfl <;> rfl

section Rows

variable {c : Catalog} {a : App α} (inStep : a.browsing.InStep c) {s : Nat}
  (cursor : a.view.cursor = some s) {f : Frame} {area : Rect} (inFrame : area.Inside f.area)
  (wide : 3 ≤ area.inner.width) {place k : Nat} {e : Entry}
  (fits : place < area.inner.height / 2) (numbered : k = s + 1 - area.inner.height / 2 + place)
  (entry : a.visibleEntries[k]? = some e) {i column : Nat} (high : i < 2)
  (inRow : column < area.inner.width)

include wide in
theorem width_mark_le (a : App α) (place : Nat) :
    a.listing.mark.width ≤ (a.listing.slot area.inner place).width := by
  rw [width_mark]
  exact Nat.le_of_succ_le wide

theorem length_entryLines_le (e : Entry) (a : App α) (r : Rect) (place : Nat) :
    (entryLines e).length ≤ (a.listing.slot r place).height := Nat.le_refl 2

include fits high inRow in
theorem has_rows :
    area.inner.has (area.inner.x + column) (area.inner.y + 2 * place + i) = true := by
  rw [Nat.add_assoc]
  exact Rect.has_of_lt inRow (by omega)

include high inRow in
theorem has_slot (a : App α) :
    (a.listing.slot area.inner place).has (area.inner.x + column)
      (area.inner.y + 2 * place + i) = true := by
  have height : a.listing.itemHeight = 2 := rfl
  simp only [Rect.has_iff, Listing.slot, Rect.right, Rect.bottom, height]
  omega

include inStep cursor wide fits numbered entry high inRow

/-- An entry is drawn in its rows as if it were alone. -/
theorem cellAt_listing :
    (a.listing.draw f area).cellAt (area.inner.x + column) (area.inner.y + 2 * place + i) =
      (a.listing.drawItem (a.listing.under f area) (a.listing.slot area.inner place)
        (k, entryLines e)).cellAt (area.inner.x + column) (area.inner.y + 2 * place + i) := by
  have there : (a.listing.shown (area.inner.height / 2))[place]? = some (k, entryLines e) := by
    refine Listing.getElem?_shown_eq_some_iff.2 ⟨fits, ?_, ?_⟩
    · rw [first_listing inStep cursor, numbered]
    · rw [listing, List.getElem?_map, entry]
      rfl
  exact Listing.cellAt_draw_slot a.narrow_listing (current_listing inStep cursor)
    (width_mark_le wide a place) a.short_listing f there (has_slot high inRow a)

theorem symbolAt_listing :
    (a.listing.draw f area).symbolAt (area.inner.x + column) (area.inner.y + 2 * place + i) =
      (a.listing.drawPlain (a.listing.under f area) (a.listing.slot area.inner place)
        (entryLines e) (decide (s = k))).symbolAt (area.inner.x + column)
          (area.inner.y + 2 * place + i) := by
  rw [Frame.symbolAt, cellAt_listing inStep cursor wide fits numbered entry high inRow]
  exact Listing.symbolAt_drawItem (current_listing inStep cursor) _ _ _ _ _ _

include inFrame

/-- The first columns of the rows show the mark or blanks. -/
theorem mark_listing (inMark : column < 2) :
    some ((a.listing.draw f area).symbolAt (area.inner.x + column)
      (area.inner.y + 2 * place + i)) =
        [if decide (s = k) = true ∧ i = 0 then ['▶'] else [' '], [' ']][column]? := by
  have inside := Frame.lt_of_has inFrame (Rect.has_of_has_inner (has_rows fits high inRow))
  rw [symbolAt_listing inStep cursor wide fits numbered entry high inRow, ← symbols_markSpan,
    List.getElem?_map]
  refine Listing.symbolAt_drawPlain_mark a.narrow_listing (width_mark_le wide a place)
    (length_entryLines_le e a area.inner place) _ _ high (by rwa [width_mark]) ?_
  rw [Listing.width_under, Listing.height_under]
  exact inside

omit inFrame in
/-- The others show the lines, drawn over what was there before. -/
theorem line_listing {l : Line} (there : (entryLines e)[i]? = some l) (past : 2 ≤ column) :
    (a.listing.draw f area).symbolAt (area.inner.x + column) (area.inner.y + 2 * place + i) =
      (l.draw f ⟨area.inner.x + 2, area.inner.y + 2 * place + i, area.inner.width - 2,
        1⟩).symbolAt (area.inner.x + column) (area.inner.y + 2 * place + i) := by
  have drawn := Listing.symbolAt_drawPlain_line a.narrow_listing (width_mark_le wide a place)
    (a.listing.under f area) (decide (s = k)) there (by rwa [width_mark] : _ ≤ column)
  have before : ((a.listing.under f area).cellAt (area.inner.x + column)
      (area.inner.y + 2 * place + i)).SameSymbol
        (f.cellAt (area.inner.x + column) (area.inner.y + 2 * place + i)) :=
    a.listing.symbolAt_under f (has_rows fits high inRow)
  have alike := (l.drawing_draw writable_sameSymbol ⟨area.inner.x + 2,
    area.inner.y + 2 * place + i, area.inner.width - 2, 1⟩
      fun s _ => s.style.bears_sameSymbol).related (a.listing.width_under f area)
        (a.listing.height_under f area) before
  rw [width_mark] at drawn
  rw [symbolAt_listing inStep cursor wide fits numbered entry high inRow]
  exact drawn.trans alike

/-- The rows of the entry under the cursor are highlighted last, and no other style has the colour
of the highlight. -/
theorem look_listing :
    ((a.listing.draw f area).cellAt (area.inner.x + column)
      (area.inner.y + 2 * place + i)).Wears Palette.highlight ↔ s = k := by
  have room := width_mark_le wide a place
  have short := length_entryLines_le e a area.inner place
  have inPanel := has_rows fits high inRow
  rw [cellAt_listing inStep cursor wide fits numbered entry high inRow,
    Listing.drawItem_eq (current_listing inStep cursor)]
  by_cases lit : s = k
  · rw [if_pos lit]
    refine iff_of_true ?_ lit
    have plain := Listing.drawing_drawPlain a.narrow_listing room short writable_eq
      a.listing.style.bears_eq (fun _ _ s _ => s.style.bears_eq) true
    refine Frame.wears_restyle _ Palette.highlight ?_ (has_slot high inRow a)
    rw [plain.width, plain.height, Listing.width_under, Listing.height_under]
    exact Frame.lt_of_has inFrame (Rect.has_of_has_inner inPanel)
  · rw [if_neg lit]
    refine iff_of_false (fun wears => ?_) lit
    have other : Palette.panel.bg ≠ some Palette.cursorRow := by decide
    have plain := Listing.drawing_drawPlain a.narrow_listing room short
      (writable_off Palette.cursorRow) (Style.bears_off other) (bears_entryLines e) false
    exact plain.related rfl rfl (a.off_under inFrame inPanel) (wears.ground rfl)

omit high inRow in
/-- An entry for which there is room is shown, and highlighted if the cursor is on it. -/
theorem showsEntry_listing :
    ShowsEntry (a.listing.draw f area) f area.inner (2 * place) e (decide (s = k)) where
  inside := by omega
  mark i high := by
    have first := mark_listing inStep cursor inFrame wide fits numbered entry high
      (by omega : 0 < area.inner.width) (by omega)
    have second := mark_listing inStep cursor inFrame wide fits numbered entry high
      (by omega : 1 < area.inner.width) (by omega)
    exact ⟨Option.some.inj first, Option.some.inj second⟩
  line i l there column past inRow :=
    line_listing inStep cursor wide fits numbered entry (List.getElem?_eq_some_iff.1 there).1 inRow
      there past
  text i cs there printable column inRow := by
    rw [← map_chars_entryLines, List.getElem?_map, Option.map_eq_some_iff] at there
    obtain ⟨l, there, rfl⟩ := there
    have high : i < 2 := (List.getElem?_eq_some_iff.1 there).1
    have inside := Frame.lt_of_has inFrame (Rect.has_of_has_inner (has_rows fits high inRow))
    have shown := line_listing (f := f) inStep cursor wide fits numbered entry high inRow there
      (Nat.le_add_right 2 column)
    rw [← Nat.add_assoc] at shown inside
    rw [shown]
    exact Line.symbolAt_draw_of_printable printable
      (align_entryLines e l (List.mem_of_getElem? there)) f (by omega) inside
  look i high column inRow := by
    rw [decide_eq_true_iff]
    exact look_listing inStep cursor inFrame wide fits numbered entry high inRow

end Rows

/-- Below the last entry nothing is drawn or highlighted. -/
theorem below_listing {c : Catalog} {a : App α} (inStep : a.browsing.InStep c) {s : Nat}
    (cursor : a.view.cursor = some s) {f : Frame} {area : Rect} (inFrame : area.Inside f.area)
    (wide : 3 ≤ area.inner.width) {row column : Nat}
    (past : 2 * min (area.inner.height / 2)
      (a.visible.length - (s + 1 - area.inner.height / 2)) ≤ row)
    (inColumn : row < area.inner.height) (inRow : column < area.inner.width) :
    (a.listing.draw f area).symbolAt (area.inner.x + column) (area.inner.y + row) =
        f.symbolAt (area.inner.x + column) (area.inner.y + row) ∧
      ¬ ((a.listing.draw f area).cellAt (area.inner.x + column)
        (area.inner.y + row)).Wears Palette.highlight := by
  have length : (a.listing.shown (area.inner.height / 2)).length =
      min (area.inner.height / 2) (a.visible.length - (s + 1 - area.inner.height / 2)) := by
    rw [Listing.length_shown, first_listing inStep cursor, length_items inStep]
  have below : area.inner.y + 2 * (a.listing.shown (area.inner.height / 2)).length ≤
      area.inner.y + row := by
    rw [length]
    exact Nat.add_le_add_left past area.inner.y
  have box := Listing.cellAt_draw_below a.narrow_listing (current_listing inStep cursor)
    (width_mark_le wide a 0) a.short_listing f below (x := area.inner.x + column)
  have inPanel := Rect.has_of_lt inRow inColumn
  rw [Frame.symbolAt, box]
  exact ⟨a.listing.symbolAt_under f inPanel, fun wears =>
    a.off_under inFrame inPanel (wears.ground rfl)⟩

/-! ## Opening -/

/-- The entry under the cursor is the one that is opened, and loaded if it has a loader. -/
theorem handle_openSelected {a : App α} {e : Entry} (highlighted : a.highlighted? = some e)
    (now : Nat) :
    (a.handle now .openSelected).app.selection.state.entry? = some e ∧
      ∀ loader, a.registry.resolve? e.key = some loader →
        (a.handle now .openSelected).app.selection.state = .loading e ∧
        (a.handle now .openSelected).job = some ⟨a.selection.generation + 1, e.key, loader⟩ := by
  simp only [handle, openHighlighted, highlighted]
  cases found : a.registry.resolve? e.key with
  | none =>
      rw [a.openEntry_of_no_loader now found]
      refine ⟨rfl, fun loader other => ?_⟩
      cases other
  | some loader =>
      rw [a.openEntry_of_loader now found]
      refine ⟨rfl, fun loader' same => ?_⟩
      cases same
      exact ⟨rfl, rfl⟩

/-! ## Every course -/

theorem inStep_afterEvent {c : Catalog} {a : App α} (event : Event)
    (inStep : a.browsing.InStep c) : (a.afterEvent event).browsing.InStep c := by
  cases event with
  | act now action => exact inStep_handle now action inStep
  | draw width height =>
      simp only [afterEvent, drawnAt]
      split
      · exact inStep
      · exact inStep
  | drawn => exact inStep

theorem inStep_startReporting (c : Catalog) (r : Registry α) (timeout : Duration) (ms : Nat)
    (audit : Option (Nat × Registry.Audit)) (fault : Option (Nat × Fault)) :
    (startReporting c r timeout ms audit fault).browsing.InStep c := by
  obtain ⟨notice, redraw, begun⟩ := startReporting_eq_with c r timeout ms audit fault
  rw [begun]
  exact inStep_start c r timeout _

/-- In every course, a list that is not empty shows its entries in order, two rows each, from the
first row inside the border on: as many as there is room for, up to the one under the cursor if they
do not all fit.  Only the rows of that entry are highlighted, and only the first of them has the
mark.  Below the last entry nothing is drawn.  The highlighted entry is the one that is opened, and
its load is started if it has a loader. -/
theorem list_shows_what_is_opened (c : Catalog) (r : Registry α) (timeout : Duration) (ms : Nat)
    (audit : Option (Nat × Registry.Audit)) (fault : Option (Nat × Fault)) (events : List Event)
    (listed : ((startReporting c r timeout ms audit fault).after events).visible ≠ [])
    (f : Frame) (area : Rect) (inFrame : area.Inside f.area) (high : 2 ≤ area.inner.height)
    (wide : 3 ≤ area.inner.width) :
    let a := (startReporting c r timeout ms audit fault).after events
    let drawn := a.drawList f area
    let panel := area.inner
    let room := panel.height / 2
    ∃ s e, a.view.cursor = some s ∧ a.highlighted? = some e ∧
      let first := s + 1 - room
      let last := min (first + room) a.visible.length
      (first ≤ s ∧ s < last) ∧
      (∀ k, first ≤ k → k < last → ∃ shown,
        a.visible[k]?.bind (a.catalog.entries[·]?) = some shown ∧
        ShowsEntry drawn f panel (2 * (k - first)) shown (decide (s = k))) ∧
      (∀ row, 2 * (last - first) ≤ row → row < panel.height → ∀ column < panel.width,
        drawn.symbolAt (panel.x + column) (panel.y + row) =
          f.symbolAt (panel.x + column) (panel.y + row) ∧
        ¬ (drawn.cellAt (panel.x + column) (panel.y + row)).Wears Palette.highlight) ∧
      ShowsEntry drawn f panel (2 * (s - first)) e true ∧
      ∀ now, (a.handle now .openSelected).app.selection.state.entry? = some e ∧
        ∀ loader, a.registry.resolve? e.key = some loader →
          (a.handle now .openSelected).app.selection.state = .loading e ∧
          (a.handle now .openSelected).job =
            some ⟨a.selection.generation + 1, e.key, loader⟩ := by
  intro a drawn panel room
  have inStep : a.browsing.InStep c :=
    after_induction (P := fun a => a.browsing.InStep c)
      (fun _ event inStep => inStep_afterEvent event inStep)
      (inStep_startReporting c r timeout ms audit fault) events
  have listed : a.visible ≠ [] := listed
  have rooms : room = area.inner.height / 2 := rfl
  have height : panel.height = area.inner.height := rfl
  clear_value a room
  have listing : drawn = a.listing.draw f area := if_neg (by simpa using listed)
  obtain ⟨s, cursor, inList⟩ := exists_cursor inStep listed
  have entries {k : Nat} (inList : k < a.visible.length) : ∃ e, a.visibleEntries[k]? = some e :=
    ⟨_, List.getElem?_eq_getElem (by rwa [length_visibleEntries inStep])⟩
  have shows {k : Nat} {e : Entry} (entry : a.visibleEntries[k]? = some e)
      (above : s + 1 - room ≤ k) (below : k < s + 1 - room + room) :
      ShowsEntry drawn f panel (2 * (k - (s + 1 - room))) e (decide (s = k)) := by
    rw [listing]
    exact showsEntry_listing inStep cursor inFrame wide (by omega) (by omega) entry
  obtain ⟨e, entry⟩ := entries inList
  have highlighted : a.highlighted? = some e := (highlighted?_eq inStep cursor).trans entry
  refine ⟨s, e, cursor, highlighted, ⟨by omega, by omega⟩, ?_, ?_, ?_,
    handle_openSelected highlighted⟩
  · intro k above below
    obtain ⟨shown, entry⟩ := entries (show k < a.visible.length by omega)
    refine ⟨shown, ?_, shows entry above (by omega)⟩
    rw [← getElem?_visibleEntries inStep, entry]
  · intro row past inColumn column inRow
    rw [listing]
    exact below_listing inStep cursor inFrame wide (by omega) inColumn inRow
  · have lit := shows entry (by omega) (by omega)
    rwa [decide_eq_true rfl] at lit

/-- With room for two of three entries and the cursor on the last, the second and the third one are
shown. -/
theorem last_of_three_entries_is_shown_second :
    let e : Entry := ⟨"c.rs", "Gamma", "Basics", "three"⟩
    let c : Catalog :=
      ⟨[⟨"a.rs", "Alpha", "Basics", "one"⟩, ⟨"b.rs", "Beta", "Basics", "two"⟩, e], by decide,
        by decide⟩
    let r : Registry Unit := (Registry.empty "samples").put "c.rs" ()
    let a := (startReporting c r ⟨0⟩ 3000 none none).after [.act 1 .selectLast]
    let drawn := a.drawList (.blank 14 9) ⟨1, 1, 12, 7⟩
    a.highlighted? = some e ∧
      drawn.symbolAt 2 2 = [' '] ∧ drawn.symbolAt 4 2 = ['B'] ∧
      drawn.symbolAt 2 4 = ['▶'] ∧ drawn.symbolAt 4 4 = ['G'] ∧
      ¬ (drawn.cellAt 11 2).Wears Palette.highlight ∧
      (drawn.cellAt 11 5).Wears Palette.highlight ∧
      (a.handle 2 .openSelected).job = some ⟨1, "c.rs", ()⟩ := by
  intro e c r a drawn
  have here : a.view.cursor = some 2 ∧ a.highlighted? = some e := by decide +kernel
  obtain ⟨s, e', cursor, highlighted, -, shown, -, lit, opened⟩ :=
    list_shows_what_is_opened c r ⟨0⟩ 3000 none none [.act 1 .selectLast] (by decide +kernel)
      (.blank 14 9) ⟨1, 1, 12, 7⟩ (by decide) (by decide) (by decide)
  obtain rfl : s = 2 := Option.some.inj (cursor.symm.trans here.1)
  obtain rfl : e' = e := Option.some.inj (highlighted.symm.trans here.2)
  have second : a.visible[1]?.bind (a.catalog.entries[·]?) =
      some ⟨"b.rs", "Beta", "Basics", "two"⟩ := by
    decide +kernel
  obtain ⟨b, entry, unlit⟩ := shown 1 (by decide) (by decide +kernel)
  obtain rfl := Option.some.inj (entry.symm.trans second)
  have beta := unlit.text 0 "Beta  [Basics]  b.rs".toList (by decide +kernel) (by decide +kernel)
    0 (by decide)
  have gamma := lit.text 0 "Gamma  [Basics]  c.rs".toList (by decide +kernel) (by decide +kernel)
    0 (by decide)
  refine ⟨here.2, (unlit.mark 0 (by decide)).1, beta.trans (by decide +kernel),
    (lit.mark 0 (by decide)).1, gamma.trans (by decide +kernel), ?_, ?_, ?_⟩
  · exact mt (unlit.look 0 (by decide) 9 (by decide)).1 (by decide)
  · exact (lit.look 1 (by decide) 9 (by decide)).2 rfl
  · exact ((opened 2).2 () (by decide +kernel)).2

end App

end Showcase
