import Showcase.Proofs.App.Scrolling
import Showcase.Proofs.App.SourcePanel

/-!
# Paging through a source

The length of a page is reckoned from the height that was remembered of the last drawing, and the
rows that are shown from the border of the panel.  Both are the height of the screen less seven.  So
a page down goes on with the line after the last one shown, and from the first line on pages down
bring every line on display (`paging_reaches_every_line`).

`Displays` is what a page down keeps: the source, the height that is remembered, and the scroll
position, which goes on by a page and stops at the last line.
-/

namespace Showcase

open Screen

variable {α : Type}

namespace App

/-! ## Pages -/

/-- The application after pages down at some times, each followed by a drawing. -/
def pagedDown (a : App α) (width height : UInt16) (times : List Nat) : App α :=
  a.after (times.flatMap fun now => [.act now .pageDown, .draw width height])

theorem pagedDown_cons (a : App α) (width height : UInt16) (now : Nat) (times : List Nat) :
    a.pagedDown width height (now :: times) =
      (((a.handle now .pageDown).app).drawnAt width.toNat height.toNat).pagedDown width height
        times := rfl

/-- A source is shown from a line on, and the height of the screen is remembered. -/
structure Displays (a : App α) (e : Entry) (text : String) (height scroll : Nat) : Prop where
  source : a.selection.state = .ready e text
  viewport : a.view.viewport = height - 5
  scroll : a.view.scroll = scroll

section

variable {a : App α} {e : Entry} {text : String} {height scroll : Nat}

theorem Displays.lineCount_eq (displays : a.Displays e text height scroll) :
    a.lineCount = Text.lineCount text := by
  simp only [lineCount, displays.source, Selection.State.text?]

theorem Displays.page_eq (displays : a.Displays e text height scroll) (tall : 10 ≤ height) :
    a.view.page = height - 7 := by
  rw [View.page, displays.viewport]
  omega

theorem drawnAt_of_large {width : Nat} (a : App α) (wide : 40 ≤ width) (tall : 10 ≤ height) :
    a.drawnAt width height = { a with view := { a.view with viewport := height - 5 } } := by
  have large : tooSmall width height = false := by
    simp only [tooSmall, minWidth, minHeight, Bool.or_eq_false_iff]
    exact ⟨decide_eq_false (by omega), decide_eq_false (by omega)⟩
  rw [drawnAt, large]
  rfl

/-- A page down goes on by a page, up to the last line. -/
theorem Displays.pageDown {width : Nat} (displays : a.Displays e text height scroll)
    (wide : 40 ≤ width) (tall : 10 ≤ height) (counted : Text.lineCount text ≤ 65535) (now : Nat) :
    (((a.handle now .pageDown).app).drawnAt width height).Displays e text height
      (min (scroll + (height - 7)) (max (Text.lineCount text) 1 - 1)) := by
  rw [drawnAt_of_large _ wide tall]
  refine ⟨displays.source, rfl, ?_⟩
  change (a.view.scrollBy a.view.page a.lineCount).scroll = _
  rw [displays.lineCount_eq, displays.page_eq tall, View.scrollBy, displays.scroll]
  simp only [View.maxScroll, View.wordMax]
  omega

/-- So do several, one after the other. -/
theorem Displays.pagedDown {width height : UInt16}
    (displays : a.Displays e text height.toNat scroll) (wide : 40 ≤ width.toNat)
    (tall : 10 ≤ height.toNat) (counted : Text.lineCount text ≤ 65535)
    (inText : scroll ≤ max (Text.lineCount text) 1 - 1) (times : List Nat) :
    (a.pagedDown width height times).Displays e text height.toNat
      (min (scroll + times.length * (height.toNat - 7)) (max (Text.lineCount text) 1 - 1)) := by
  induction times generalizing a scroll with
  | nil =>
      rw [List.length_nil, Nat.zero_mul, Nat.add_zero, Nat.min_eq_left inText]
      exact displays
  | cons now times induction =>
      have next := induction (displays.pageDown wide tall counted now) (Nat.min_le_right _ _)
      have advanced :
          min (min (scroll + (height.toNat - 7)) (max (Text.lineCount text) 1 - 1) +
              times.length * (height.toNat - 7)) (max (Text.lineCount text) 1 - 1) =
            min (scroll + (now :: times).length * (height.toNat - 7))
              (max (Text.lineCount text) 1 - 1) := by
        rw [List.length_cons, Nat.succ_mul]
        omega
      rw [advanced] at next
      rw [pagedDown_cons]
      exact next

/-- A page up takes back a page down that was not stopped. -/
theorem pageUp_pageDown {width height : UInt16} {scroll : Nat}
    (displays : a.Displays e text height.toNat scroll) (wide : 40 ≤ width.toNat)
    (tall : 10 ≤ height.toNat) (counted : Text.lineCount text ≤ 65535)
    (free : scroll + a.view.page ≤ Text.lineCount text - 1) (now later : Nat) :
    a.after [.act now .pageDown, .draw width height, .act later .pageUp] =
      { a with redraw := true } := by
  have lines := displays.lineCount_eq
  have down : (a.view.scrollBy a.view.page a.lineCount).scroll = a.view.scroll + a.view.page := by
    rw [lines, View.scrollBy, displays.scroll]
    simp only [View.maxScroll, View.wordMax]
    omega
  have paged : ((a.handle now .pageDown).app).drawnAt width.toNat height.toNat =
      { a with
        view := { a.view with scroll := a.view.scroll + a.view.page }
        redraw := true } := by
    rw [drawnAt_of_large _ wide tall, ← displays.viewport]
    simp only [handle, App.scroll, reshow, ← down]
    rfl
  have up : ({ a.view with scroll := a.view.scroll + a.view.page }.scrollBy (-(a.view.page : Int))
      a.lineCount) = a.view := by
    have : min ((a.view.scroll + a.view.page : Nat) + -(a.view.page : Int)).toNat
        (View.maxScroll a.lineCount) = a.view.scroll := by
      rw [lines, displays.scroll]
      simp only [View.maxScroll, View.wordMax]
      omega
    simp only [View.scrollBy, this]
  change ((((a.handle now .pageDown).app).drawnAt width.toNat height.toNat).handle later
    .pageUp).app = _
  rw [paged]
  exact congrArg (fun view => { a with view, redraw := true }) up

theorem bodyArea_inside (f : Frame) (tall : 10 ≤ f.height) : (bodyArea f.area).Inside f.area := by
  simp only [bodyArea, Frame.area, Rect.Inside, Rect.right, Rect.bottom]
  omega

/-- The panel of a source shows the lines from the scroll position on. -/
theorem Displays.symbolAt_drawBody (displays : a.Displays e text height scroll) (elapsed : Duration)
    {f : Frame} (tall : 10 ≤ f.height) {r : Rect} (inside : r = (bodyArea f.area).inner)
    (counted : scroll + r.height ≤ 65535) {line column : Nat} {l : Line}
    (there : (Source.lines text)[line]? = some l) (above : scroll ≤ line)
    (below : line < scroll + r.height) (inRow : column < r.width) :
    (a.drawBody elapsed f (bodyArea f.area)).symbolAt (r.x + column) (r.y + (line - scroll)) =
      ((glyphAt? (cutLine r.width l.glyphs) column).map (·.symbol)).getD [' '] := by
  subst inside
  have shown := Source.symbolAt_draw f e text (bodyArea_inside f tall) counted inRow
    (show line - scroll < (bodyArea f.area).inner.height by omega)
  rw [Nat.add_sub_cancel' above, there, Option.bind_some] at shown
  rw [drawBody, displays.source, displays.scroll]
  exact shown

end

theorem length_lines (text : String) : (Source.lines text).length = Text.lineCount text := by
  rw [Source.lines, List.length_mapIdx]
  rfl

/-- When a source has just been brought and drawn, a page is as long as the panel is high inside,
and each page down goes on by a page, up to the last line.  After some number of pages down each
line of the source stands in the window that is drawn, in its row of the panel.  A page up takes
back a page down that was not stopped. -/
theorem paging_reaches_every_line {a : App α} {event : Event} {e : Entry} {text : String}
    (brought : (a.afterEvent event).selection.state = .ready e text)
    (new : a.selection.state ≠ .ready e text) {width height : UInt16} (wide : 40 ≤ width.toNat)
    (tall : 10 ≤ height.toNat) (counted : Text.lineCount text + height.toNat ≤ 65535) :
    let shown := (a.afterEvent event).afterEvent (.draw width height)
    let panel := (bodyArea ⟨0, 0, width.toNat, height.toNat⟩).inner
    shown.view.page = panel.height ∧
    (∀ times, (shown.pagedDown width height times).view.scroll =
      min (times.length * shown.view.page) (max (Text.lineCount text) 1 - 1)) ∧
    (∀ line < Text.lineCount text, ∃ l k, (Source.lines text)[line]? = some l ∧
      ∀ times, times.length = k →
        let b := shown.pagedDown width height times
        b.view.scroll ≤ line ∧ line < b.view.scroll + panel.height ∧
        ∀ elapsed f, f.width = width.toNat → f.height = height.toNat → ∀ column < panel.width,
          (b.drawBody elapsed f (bodyArea f.area)).symbolAt (panel.x + column)
              (panel.y + (line - b.view.scroll)) =
            ((glyphAt? (cutLine panel.width l.glyphs) column).map (·.symbol)).getD [' ']) ∧
    (∀ b : App α, b.selection.state = .ready e text → b.view.viewport = shown.view.viewport →
      b.view.scroll + b.view.page ≤ Text.lineCount text - 1 → ∀ now later,
        b.after [.act now .pageDown, .draw width height, .act later .pageUp] =
          { b with redraw := true }) := by
  intro shown panel
  have drawn : shown = { a.afterEvent event with
      view := { (a.afterEvent event).view with viewport := height.toNat - 5 } } :=
    drawnAt_of_large _ wide tall
  have displays : shown.Displays e text height.toNat 0 := by
    rw [drawn]
    exact ⟨brought, rfl, scroll_of_new_source_afterEvent brought new⟩
  have page : shown.view.page = height.toNat - 7 := displays.page_eq tall
  have rows : panel.height = height.toNat - 7 := by
    simp only [panel, bodyArea, Rect.inner]
    omega
  have paged (times : List Nat) : (shown.pagedDown width height times).Displays e text height.toNat
      (min (times.length * shown.view.page) (max (Text.lineCount text) 1 - 1)) := by
    have run := displays.pagedDown wide tall (by omega) (Nat.zero_le _) times
    rwa [Nat.zero_add, ← page] at run
  refine ⟨by rw [page, rows], fun times => (paged times).scroll, ?_, ?_⟩
  · intro line inText
    refine ⟨_, line / shown.view.page,
      List.getElem?_eq_getElem (by rwa [length_lines]), fun times many => ?_⟩
    have run := paged times
    have reached : line / shown.view.page * shown.view.page ≤ line := Nat.div_mul_le_self _ _
    have ahead : line < line / shown.view.page * shown.view.page + shown.view.page :=
      Nat.lt_div_mul_add (by omega)
    rw [many, Nat.min_eq_left (by omega)] at run
    intro b
    have scroll : b.view.scroll = line / shown.view.page * shown.view.page := run.scroll
    rw [scroll]
    refine ⟨reached, by omega, fun elapsed f wideFrame highFrame column inRow => ?_⟩
    have inside : panel = (bodyArea f.area).inner := by
      simp only [panel, Frame.area, wideFrame, highFrame]
    exact run.symbolAt_drawBody elapsed (by omega) inside (by omega)
      (List.getElem?_eq_getElem (by rwa [length_lines])) reached (by omega) inRow
  · intro b source viewport free now later
    have viewport' : b.view.viewport = height.toNat - 5 := viewport.trans displays.viewport
    exact pageUp_pageDown ⟨source, viewport', rfl⟩ wide tall (by omega) free now later

/-- Of eight lines three fit on a small screen: the second page down shows the last line, and the
third one stops there. -/
theorem second_page_down_reaches_the_last_of_eight_lines :
    let e : Entry := ⟨"a.rs", "A", "Basics", ""⟩
    let c : Catalog := ⟨[e], by decide, by decide⟩
    let r : Registry Unit := (Registry.empty "samples").put "a.rs" ()
    let text := "a\nb\nc\nd\ne\nf\ng\nh\n"
    let brought : Event := .act 2 (.loaded ⟨1, "a.rs", .ok text, ⟨0⟩⟩)
    let a := (startReporting c r ⟨0⟩ 3000 none none).after [.act 1 .openSelected]
    let shown := (a.afterEvent brought).afterEvent (.draw 40 10)
    shown.view.page = 3 ∧
      (shown.pagedDown 40 10 [3, 4]).view.scroll = 6 ∧
      (shown.pagedDown 40 10 [3, 4, 5]).view.scroll = 7 ∧
      shown.after [.act 3 .pageDown, .draw 40 10, .act 4 .pageUp] =
        { shown with redraw := true } := by
  intro e c r text brought a shown
  have ready : (a.afterEvent brought).selection.state = .ready e text := by decide +kernel
  have new : a.selection.state ≠ .ready e text := by decide +kernel
  have lines : Text.lineCount text = 8 := by decide +kernel
  have here : shown.selection.state = .ready e text ∧ shown.view.scroll = 0 := by decide +kernel
  obtain ⟨page, scroll, -, undone⟩ :=
    paging_reaches_every_line ready new (show 40 ≤ (40 : UInt16).toNat by decide)
      (show 10 ≤ (10 : UInt16).toNat by decide) (by rw [lines]; decide)
  have three : shown.view.page = 3 := page
  refine ⟨three, ?_, ?_, undone shown here.1 rfl ?_ 3 4⟩
  · rw [scroll, three, lines]
    rfl
  · rw [scroll, three, lines]
    rfl
  · rw [here.2, three, lines]
    decide

end App

end Showcase
