import Showcase.Proofs.Screen.Narrow
import Showcase.Screen.Listing

/-!
# What a drawn listing shows

A listing is drawn in parts: its items one below the other, the lines of an item, the marks in front
of them.  Each part stays in a region of its own, so a cell becomes what the part of its region
makes of it, as if that part were drawn alone (`cellAt_drawEach`).

So an item stands in its slot as if there were no other one (`Listing.cellAt_draw_slot`), with the
mark in its first columns (`Listing.symbolAt_drawPlain_mark`) and its lines in the others
(`Listing.symbolAt_drawPlain_line`).  Below the last item nothing is drawn
(`Listing.cellAt_draw_below`).
-/

namespace Showcase.Screen

open Showcase.Screen.Frame

/-! ## Parts -/

section Parts

variable {ι : Type}

/-- Draws a part for each item and its number, one after the other. -/
def drawEach (part : Nat → ι → Frame → Frame) : List ι → Frame → Frame
  | [], f => f
  | item :: items, f => drawEach (fun i => part (i + 1)) items (part 0 item f)

theorem drawEach_eq_foldl (part : ι → Frame → Frame) (items : List ι) (f : Frame) :
    drawEach (fun _ => part) items f = items.foldl (fun f item => part item f) f := by
  induction items generalizing f with
  | nil => rfl
  | cons item items induction => exact induction (part item f)

variable {items : List ι} {part : Nat → ι → Frame → Frame}

theorem drawing_drawEach {region : Nat → Nat → Prop} {R : Cell → Cell → Prop}
    (drawings : ∀ i item, items[i]? = some item → Drawing region R (part i item)) :
    Drawing region R (drawEach part items) := by
  induction items generalizing part with
  | nil => exact .nothing
  | cons first items induction =>
      have rest := induction fun i item there => drawings (i + 1) item there
      exact (drawings 0 first rfl).andThen rest

/-- A cell becomes what the one part makes of it whose region it is in. -/
theorem cellAt_drawEach {region : Nat → Nat → Nat → Prop}
    (drawings : ∀ i item, items[i]? = some item → Drawing (region i) (· = ·) (part i item))
    {i : Nat} {item : ι} (there : items[i]? = some item) {x y : Nat}
    (apart : ∀ j, region j x y → j = i) (f : Frame) :
    (drawEach part items f).cellAt x y = (part i item f).cellAt x y := by
  induction items generalizing part region i f with
  | nil => cases there
  | cons first items induction =>
      have rest (j : Nat) (item : ι) (there : items[j]? = some item) :
          Drawing (region (j + 1)) (· = ·) (part (j + 1) item) := drawings (j + 1) item there
      have here := drawings 0 first rfl
      cases i with
      | zero =>
          obtain rfl : first = item := Option.some.inj there
          have later : Drawing (fun x y => ∃ j, region (j + 1) x y) (· = ·)
              (drawEach (fun i => part (i + 1)) items) :=
            drawing_drawEach fun j item there => (rest j item there).mono fun _ _ has => ⟨j, has⟩
          refine later.outside (part 0 first f) ?_
          rintro ⟨j, has⟩
          exact Nat.succ_ne_zero j (apart _ has)
      | succ i =>
          have untouched : (part 0 first f).cellAt x y = f.cellAt x y :=
            here.outside f fun has => Nat.succ_ne_zero i (apart 0 has).symm
          have next := induction rest there (fun j has => Nat.succ.inj (apart _ has))
            (part 0 first f)
          exact next.trans ((rest i item there).related (here.width f) (here.height f) untouched)

end Parts

/-! ## Symbols and grounds -/

/-- Two cells show the same. -/
def Cell.SameSymbol (c d : Cell) : Prop := c.symbol = d.symbol

theorem writable_sameSymbol : Writable Cell.SameSymbol :=
  ⟨rfl, fun _ _ => rfl, fun more same => congrArg (· ++ more) same⟩

theorem Style.bears_sameSymbol (s : Style) : s.Bears Cell.SameSymbol := fun _ _ same => same

/-- A colour is not behind the symbol of a cell; the other cell does not matter. -/
def Cell.Off (colour : Colour) (c _ : Cell) : Prop := c.bg ≠ some colour

theorem writable_off (colour : Colour) : Writable (Cell.Off colour) :=
  ⟨(Option.some_ne_none colour).symm, fun _ off => off, fun _ off => off⟩

theorem Style.bears_off {colour : Colour} {s : Style} (other : s.bg ≠ some colour) :
    s.Bears (Cell.Off colour) := by
  intro c d off
  cases ground : s.bg with
  | none => simpa [Cell.Off, Cell.withStyle, ground] using off
  | some colour' => simpa [Cell.Off, Cell.withStyle, ground] using other

/-! ## Styles that a cell wears -/

/-- A cell looks as a style says: applying it once more changes nothing. -/
def Cell.Wears (c : Cell) (s : Style) : Prop := c.withStyle s = c

theorem Cell.wears_withStyle (c : Cell) (s : Style) : (c.withStyle s).Wears s := by
  have twice (a b : Option Colour) : a.or (a.or b) = a.or b := by cases a <;> rfl
  simp only [Cell.Wears, Cell.withStyle, twice, Bool.or_assoc, Bool.or_self]

theorem Cell.Wears.ground {c : Cell} {s : Style} (wears : c.Wears s) {colour : Colour}
    (ground : s.bg = some colour) : c.bg = some colour := by
  have same := congrArg Cell.bg wears
  rw [← same, Cell.withStyle, ground]
  rfl

theorem Frame.wears_restyle (f : Frame) {r : Rect} (s : Style) {x y : Nat}
    (inFrame : x < f.width ∧ y < f.height) (inside : r.has x y = true) :
    ((f.restyle r s).cellAt x y).Wears s := by
  rw [restyle, cellAt_changeIn f r _ inFrame.1 inFrame.2, if_pos inside]
  exact Cell.wears_withStyle _ s

theorem Frame.symbolAt_restyle (f : Frame) (r : Rect) (s : Style) (x y : Nat) :
    (f.restyle r s).symbolAt x y = f.symbolAt x y := by
  have spared : Spares (fun _ _ => True) f (f.restyle r s) := .restyle f r s
  exact spared.symbols x y trivial

namespace Listing

/-! ## Lines one below the other -/

theorem drawLines_eq (lines : List Line) (f : Frame) (r : Rect) :
    drawLines f r lines = drawEach (fun i line => (line.draw · (r.row i))) lines f := by
  induction lines generalizing f r with
  | nil => rfl
  | cons line lines induction =>
      have below (i : Nat) : ({ r with y := r.y + 1, height := r.height - 1 } : Rect).row i =
          r.row (i + 1) := by
        rw [Rect.row, Rect.row, Nat.add_right_comm, Nat.add_assoc]
      rw [drawLines, induction]
      simp only [below, drawEach]

theorem drawing_drawLines {R : Cell → Cell → Prop} (writable : Writable R) {lines : List Line}
    {r : Rect} (short : lines.length ≤ r.height)
    (bears : ∀ line ∈ lines, ∀ s ∈ line.spans, s.style.Bears R) :
    Drawing (fun x y => r.has x y = true) R (drawLines · r lines) := by
  simp only [drawLines_eq]
  refine drawing_drawEach fun i line there => ?_
  obtain ⟨inLines, _⟩ := List.getElem?_eq_some_iff.1 there
  refine (line.drawing_draw writable (r.row i) (bears line (List.mem_of_getElem? there))).mono ?_
  rintro x y ⟨row, left, right⟩
  have row : y = r.y + i := row
  refine Rect.has_iff.2 ⟨left, right, by omega, ?_⟩
  rw [Rect.bottom]
  omega

/-- Each line stands in its own row, as if it were alone. -/
theorem cellAt_drawLines {lines : List Line} {i : Nat} {line : Line} (there : lines[i]? = some line)
    (f : Frame) (r : Rect) (x : Nat) :
    (drawLines f r lines).cellAt x (r.y + i) = (line.draw f (r.row i)).cellAt x (r.y + i) := by
  have drawings (j : Nat) (line : Line) (_ : lines[j]? = some line) :
      Drawing (Strip (r.y + j) r.x r.right) (· = ·) (line.draw · (r.row j)) :=
    line.drawing_draw writable_eq (r.row j) fun s _ => s.style.bears_eq
  rw [drawLines_eq]
  exact cellAt_drawEach drawings there (fun j has => (Nat.add_left_cancel has.1).symm) f

/-! ## Marks -/

/-- What stands in front of a row of an item. -/
def markSpan (l : Listing) (lit : Bool) (row : Nat) : Span :=
  ⟨if lit && row == 0 then l.mark.text else List.replicate l.mark.width ' ', l.style⟩

theorem drawMark_eq (l : Listing) (f : Frame) (r : Rect) (lit : Bool) (row : Nat) :
    l.drawMark f r lit row = (l.markSpan lit row).draw f (r.row row) := rfl

section Marks

variable {l : Listing} (narrow : l.mark.IsNarrow)

include narrow

/-- The mark and the blanks take the same columns, one a glyph. -/
theorem narrow_markSpan (lit : Bool) (row : Nat) :
    Narrow (l.markSpan lit row).glyphs ∧ (l.markSpan lit row).glyphs.length = l.mark.width := by
  cases first : lit && row == 0 with
  | true =>
      have glyphs : (l.markSpan lit row).glyphs =
          l.mark.glyphs.map fun g => { g with style := l.style } := by
        simp only [markSpan, first, if_true, Span.glyphs, List.map_map]
        rfl
      rw [glyphs, List.length_map, narrow.width]
      refine ⟨fun g member => ?_, rfl⟩
      obtain ⟨g, inMark, rfl⟩ := List.mem_map.1 member
      exact narrow.glyphs g inMark
  | false =>
      have printable : Text.Printable (List.replicate l.mark.width ' ') := by
        intro c member
        rw [List.eq_of_mem_replicate member]
        decide
      have glyphs : (l.markSpan lit row).glyphs =
          (List.replicate l.mark.width ' ').map (Glyph.ofChar l.style) := by
        simp only [markSpan, first, Bool.false_eq_true, if_false]
        exact Span.glyphs_of_narrow printable.isNarrow
      rw [glyphs]
      exact ⟨narrow_map_ofChar _ _, by rw [List.length_map, List.length_replicate]⟩

theorem drawMark_of_narrow (f : Frame) {r : Rect} (room : l.mark.width ≤ r.width) (lit : Bool)
    (row : Nat) :
    l.drawMark f r lit row = Paragraph.drawRow f (r.y + row) r.x (l.markSpan lit row).glyphs := by
  obtain ⟨glyphs, length⟩ := narrow_markSpan narrow lit row
  rw [drawMark_eq, Span.draw_of_narrow glyphs f (r.row row) Nat.one_pos, List.take_of_length_le]
  · rfl
  · rw [length]
    exact room

/-- A mark stays in the first columns of its row. -/
theorem drawing_drawMark {R : Cell → Cell → Prop} (writable : Writable R) (bears : l.style.Bears R)
    {r : Rect} (room : l.mark.width ≤ r.width) (lit : Bool) (row : Nat) :
    Drawing (Strip (r.y + row) r.x (r.x + l.mark.width)) R (l.drawMark · r lit row) := by
  obtain ⟨glyphs, length⟩ := narrow_markSpan narrow lit row
  simp only [drawMark_of_narrow narrow _ room]
  rw [← length, ← glyphs.glyphsWidth_eq]
  refine Paragraph.drawing_drawRow writable _ (fun g member => ?_) _ _
  obtain ⟨_, _, rfl⟩ := List.mem_map.1 member
  exact bears

theorem symbolAt_drawMark (f : Frame) {r : Rect} (room : l.mark.width ≤ r.width) (lit : Bool)
    (row : Nat) {column : Nat} (inMark : column < l.mark.width)
    (inFrame : r.x + column < f.width ∧ r.y + row < f.height) :
    some ((l.drawMark f r lit row).symbolAt (r.x + column) (r.y + row)) =
      (l.markSpan lit row).glyphs[column]?.map (·.symbol) := by
  obtain ⟨glyphs, length⟩ := narrow_markSpan narrow lit row
  rw [drawMark_of_narrow narrow f room, Paragraph.symbolAt_drawRow _ f r.x inFrame.1 inFrame.2,
    glyphs.glyphAt?_eq, List.getElem?_eq_getElem (by rwa [length])]
  rfl

end Marks

/-! ## Items -/

/-- Draws an item without the look of the selected one. -/
def drawPlain (l : Listing) (f : Frame) (r : Rect) (lines : List Line) (lit : Bool) : Frame :=
  drawEach (fun _ row => (l.drawMark · r lit row)) (List.range lines.length)
    (drawLines (f.restyle r l.style) (r.indent l.mark.width) lines)

theorem drawItem_eq {l : Listing} {current : Nat} (selected : l.current = some current) (f : Frame)
    (r : Rect) (k : Nat) (lines : List Line) :
    l.drawItem f r (k, lines) =
      if current = k then (l.drawPlain f r lines true).restyle r l.highlight
      else l.drawPlain f r lines false := by
  have lit : (some current == some k) = decide (current = k) := rfl
  simp only [drawItem, selected, lit, drawPlain, drawEach_eq_foldl]
  by_cases same : current = k
  · simp only [same, decide_true, if_true]
  · simp only [same, decide_false, Bool.false_eq_true, if_false]

/-- The look of the selected item leaves what it shows. -/
theorem symbolAt_drawItem {l : Listing} {current : Nat} (selected : l.current = some current)
    (f : Frame) (r : Rect) (k : Nat) (lines : List Line) (x y : Nat) :
    (l.drawItem f r (k, lines)).symbolAt x y =
      (l.drawPlain f r lines (decide (current = k))).symbolAt x y := by
  rw [drawItem_eq selected]
  by_cases lit : current = k
  · rw [if_pos lit, decide_eq_true lit, symbolAt_restyle]
  · rw [if_neg lit, decide_eq_false lit]

section Items

variable {l : Listing} (narrow : l.mark.IsNarrow) {r : Rect} (room : l.mark.width ≤ r.width)
  {lines : List Line} (short : lines.length ≤ r.height)

theorem row_indent (room : l.mark.width ≤ r.width) (i : Nat) :
    (r.indent l.mark.width).row i =
      ⟨r.x + l.mark.width, r.y + i, r.width - l.mark.width, 1⟩ := by
  simp only [Rect.indent, Rect.row, Rect.right, Nat.min_eq_left (Nat.add_le_add_left room r.x)]

include short in
theorem drawing_indented {R : Cell → Cell → Prop} (writable : Writable R) (style : l.style.Bears R)
    (bears : ∀ line ∈ lines, ∀ s ∈ line.spans, s.style.Bears R) :
    Drawing (fun x y => r.has x y = true) R fun f =>
      drawLines (f.restyle r l.style) (r.indent l.mark.width) lines := by
  have inRows : lines.length ≤ (r.indent l.mark.width).height := short
  refine .andThen (.restyle (fun _ _ has => has) style)
    ((drawing_drawLines writable inRows bears).mono fun x y has => ?_)
  rw [Rect.has_iff] at has ⊢
  simp only [Rect.indent, Rect.right, Rect.bottom] at has ⊢
  omega

include narrow room

/-- The columns after the mark show the lines, each as if it were drawn alone. -/
theorem symbolAt_drawPlain_line (f : Frame) (lit : Bool) {i column : Nat} {line : Line}
    (there : lines[i]? = some line) (past : l.mark.width ≤ column) :
    (l.drawPlain f r lines lit).symbolAt (r.x + column) (r.y + i) =
      (line.draw f ⟨r.x + l.mark.width, r.y + i, r.width - l.mark.width, 1⟩).symbolAt
        (r.x + column) (r.y + i) := by
  have marks : Drawing (fun x _ => x < r.x + l.mark.width) (· = ·)
      (drawEach (fun _ row => (l.drawMark · r lit row)) (List.range lines.length)) :=
    drawing_drawEach fun _ row _ =>
      (drawing_drawMark narrow writable_eq l.style.bears_eq room lit row).mono
        fun _ _ strip => strip.2.2
  have written := cellAt_drawLines there (f.restyle r l.style) (r.indent l.mark.width)
    (r.x + column)
  have under : ((f.restyle r l.style).cellAt (r.x + column) (r.y + i)).SameSymbol
      (f.cellAt (r.x + column) (r.y + i)) := f.symbolAt_restyle r l.style _ _
  have alike := (line.drawing_draw writable_sameSymbol ((r.indent l.mark.width).row i)
    fun s _ => s.style.bears_sameSymbol).related (f := f.restyle r l.style) (g := f) rfl rfl
      under
  rw [drawPlain, symbolAt, marks.outside _ (by omega)]
  rw [row_indent room] at written alike
  exact (congrArg Cell.symbol written).trans alike

include short

/-- An item stays in its rectangle. -/
theorem drawing_drawPlain {R : Cell → Cell → Prop} (writable : Writable R) (style : l.style.Bears R)
    (bears : ∀ line ∈ lines, ∀ s ∈ line.spans, s.style.Bears R) (lit : Bool) :
    Drawing (fun x y => r.has x y = true) R (l.drawPlain · r lines lit) := by
  refine .andThen (drawing_indented short writable style bears)
    (drawing_drawEach fun _ row there => ?_)
  have inLines := List.mem_range.1 (List.mem_of_getElem? there)
  refine (drawing_drawMark narrow writable style room lit row).mono ?_
  rintro x y ⟨rfl, left, right⟩
  rw [Rect.has_iff, Rect.right, Rect.bottom]
  omega

/-- The first columns show the mark of the row. -/
theorem symbolAt_drawPlain_mark (f : Frame) (lit : Bool) {i column : Nat}
    (inLines : i < lines.length) (inMark : column < l.mark.width)
    (inFrame : r.x + column < f.width ∧ r.y + i < f.height) :
    some ((l.drawPlain f r lines lit).symbolAt (r.x + column) (r.y + i)) =
      (l.markSpan lit i).glyphs[column]?.map (·.symbol) := by
  have drawings (j row : Nat) (there : (List.range lines.length)[j]? = some row) :
      Drawing (Strip (r.y + j) r.x (r.x + l.mark.width)) (· = ·) (l.drawMark · r lit row) := by
    obtain ⟨_, rfl⟩ := List.getElem?_eq_some_iff.1 there
    rw [List.getElem_range]
    exact drawing_drawMark narrow writable_eq l.style.bears_eq room lit j
  have under := drawing_indented short writable_eq l.style.bears_eq
    fun line _ s _ => s.style.bears_eq
  rw [drawPlain, symbolAt, cellAt_drawEach drawings (List.getElem?_range inLines)
    fun j strip => (Nat.add_left_cancel strip.1).symm]
  refine symbolAt_drawMark narrow _ room lit i inMark ?_
  rw [under.width, under.height]
  exact inFrame

end Items

/-! ## Slots -/

/-- The rows of an item. -/
def slot (l : Listing) (r : Rect) (i : Nat) : Rect :=
  ⟨r.x, r.y + l.itemHeight * i, r.width, l.itemHeight⟩

theorem drawItems_eq (l : Listing) (items : List (Nat × List Line)) (f : Frame) (r : Rect) :
    l.drawItems f r items = drawEach (fun i item => (l.drawItem · (l.slot r i) item)) items f := by
  induction items generalizing f r with
  | nil => rfl
  | cons item items induction =>
      have below (i : Nat) : l.slot { r with y := r.y + l.itemHeight } i = l.slot r (i + 1) := by
        simp only [slot, Nat.mul_succ, Nat.add_assoc, Nat.add_comm l.itemHeight]
      rw [drawItems, induction]
      simp only [below, drawEach]
      rfl

/-- What a listing is drawn on: its box. -/
def under (l : Listing) (f : Frame) (r : Rect) : Frame := l.box.draw (f.restyle r l.style) r

theorem slot_row {l : Listing} {r : Rect} {i x y : Nat} (has : (l.slot r i).has x y = true) :
    (y - r.y) / l.itemHeight = i := by
  have := Rect.has_iff.1 has
  simp only [slot, Rect.bottom] at this
  refine Nat.div_eq_of_lt_le ?_ ?_
  · rw [Nat.mul_comm]
    omega
  · rw [Nat.mul_comm, Nat.mul_succ]
    omega

section Slots

variable {l : Listing} (narrow : l.mark.IsNarrow) {current : Nat}
  (selected : l.current = some current)

/-- The items from the first one on are shown, as many as there is room for. -/
theorem getElem?_shown_eq_some_iff {room i k : Nat} {lines : List Line} :
    (l.shown room)[i]? = some (k, lines) ↔
      i < room ∧ k = l.first room + i ∧ l.items[k]? = some lines := by
  rw [shown, List.getElem?_take]
  split
  next fits =>
    rw [List.getElem?_drop, List.getElem?_zip_eq_some]
    constructor
    · rintro ⟨number, item⟩
      obtain ⟨_, rfl⟩ := List.getElem?_eq_some_iff.1 number
      rw [List.getElem_range]
      exact ⟨fits, rfl, item⟩
    · rintro ⟨_, rfl, item⟩
      obtain ⟨inItems, _⟩ := List.getElem?_eq_some_iff.1 item
      exact ⟨List.getElem?_range inItems, item⟩
  next full => simp [full]

theorem length_shown (l : Listing) (room : Nat) :
    (l.shown room).length = min room (l.items.length - l.first room) := by
  rw [shown, List.length_take, List.length_drop, List.length_zip, List.length_range, Nat.min_self]

include narrow selected

/-- An item stays in its slot. -/
theorem drawing_drawItem {R : Cell → Cell → Prop} (writable : Writable R) (style : l.style.Bears R)
    {r : Rect} (room : l.mark.width ≤ r.width) {k : Nat} {lines : List Line}
    (highlight : current = k → l.highlight.Bears R) (short : lines.length ≤ r.height)
    (bears : ∀ line ∈ lines, ∀ s ∈ line.spans, s.style.Bears R) :
    Drawing (fun x y => r.has x y = true) R (l.drawItem · r (k, lines)) := by
  have plain := drawing_drawPlain narrow room short writable style bears
  simp only [drawItem_eq selected]
  by_cases lit : current = k
  · simp only [lit, if_true]
    exact .andThen (plain true) (.restyle (fun _ _ has => has) (highlight lit))
  · simp only [lit, if_false]
    exact plain false

variable {r : Rect} (room : l.mark.width ≤ r.inner.width)
  (short : ∀ lines ∈ l.items, lines.length ≤ l.itemHeight)

include room short

theorem drawing_slot {places i k : Nat} {lines : List Line}
    (there : (l.shown places)[i]? = some (k, lines)) :
    Drawing (fun x y => (l.slot r.inner i).has x y = true) (· = ·)
      (l.drawItem · (l.slot r.inner i) (k, lines)) := by
  have item := (getElem?_shown_eq_some_iff.1 there).2.2
  have fits : lines.length ≤ (l.slot r.inner i).height :=
    short lines (List.mem_of_getElem? item)
  have wide : l.mark.width ≤ (l.slot r.inner i).width := room
  exact drawing_drawItem narrow selected writable_eq l.style.bears_eq wide
    (fun _ => l.highlight.bears_eq) fits fun _ _ s _ => s.style.bears_eq

/-- In the slot of an item there is that item, as if it were alone in its box. -/
theorem cellAt_draw_slot (f : Frame) {i k : Nat} {lines : List Line}
    (there : (l.shown (r.inner.height / l.itemHeight))[i]? = some (k, lines)) {x y : Nat}
    (has : (l.slot r.inner i).has x y = true) :
    (l.draw f r).cellAt x y =
      (l.drawItem (l.under f r) (l.slot r.inner i) (k, lines)).cellAt x y := by
  have filled : r.inner.isEmpty = false := by
    have wide := Rect.has_iff.1 has
    have high : r.inner.height ≠ 0 := by
      intro none
      have fits := (getElem?_shown_eq_some_iff.1 there).1
      rw [none, Nat.zero_div] at fits
      exact Nat.not_lt_zero i fits
    simp only [slot, Rect.right] at wide
    simp only [Rect.isEmpty, Bool.or_eq_false_iff, decide_eq_false_iff_not]
    omega
  have drawings (j : Nat) (item : Nat × List Line)
      (there : (l.shown (r.inner.height / l.itemHeight))[j]? = some item) :
      Drawing (fun _ y => (y - r.inner.y) / l.itemHeight = j) (· = ·)
        (l.drawItem · (l.slot r.inner j) item) :=
    (drawing_slot narrow selected room short there).mono fun _ _ => slot_row
  simp only [draw, filled, Bool.false_eq_true, if_false, drawItems_eq]
  exact cellAt_drawEach drawings there (fun j row => row.symm.trans (slot_row has)) _

/-- Below the last item there is the box only. -/
theorem cellAt_draw_below (f : Frame) {x y : Nat}
    (below : r.inner.y + l.itemHeight * (l.shown (r.inner.height / l.itemHeight)).length ≤ y) :
    (l.draw f r).cellAt x y = (l.under f r).cellAt x y := by
  have items : Drawing (fun _ y => y < r.inner.y +
      l.itemHeight * (l.shown (r.inner.height / l.itemHeight)).length) (· = ·)
      (drawEach (fun i item => (l.drawItem · (l.slot r.inner i) item))
        (l.shown (r.inner.height / l.itemHeight))) := by
    refine drawing_drawEach fun i item there => ?_
    refine (drawing_slot narrow selected room short there).mono fun x y has => ?_
    obtain ⟨inItems, _⟩ := List.getElem?_eq_some_iff.1 there
    have last := Nat.mul_le_mul_left l.itemHeight inItems
    have rows := Rect.has_iff.1 has
    simp only [slot, Rect.bottom] at rows
    rw [Nat.mul_succ] at last
    omega
  simp only [draw, drawItems_eq]
  split
  · rfl
  · exact items.outside _ (Nat.not_lt.2 below)

end Slots

/-! ## The box -/

theorem width_under (l : Listing) (f : Frame) (r : Rect) : (l.under f r).width = f.width :=
  (l.box.drawing_draw r).width _

theorem height_under (l : Listing) (f : Frame) (r : Rect) : (l.under f r).height = f.height :=
  (l.box.drawing_draw r).height _

theorem cellAt_under (l : Listing) (f : Frame) {r : Rect} {x y : Nat}
    (inside : r.inner.has x y = true) :
    (l.under f r).cellAt x y = ((f.restyle r l.style).restyle r l.box.style).cellAt x y :=
  l.box.cellAt_draw_inner _ inside

theorem symbolAt_under (l : Listing) (f : Frame) {r : Rect} {x y : Nat}
    (inside : r.inner.has x y = true) : (l.under f r).symbolAt x y = f.symbolAt x y := by
  rw [symbolAt, l.cellAt_under f inside]
  exact (symbolAt_restyle _ r _ x y).trans (f.symbolAt_restyle r _ x y)

end Listing

end Showcase.Screen
