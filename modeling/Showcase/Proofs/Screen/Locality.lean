import Showcase.Screen.Paragraph

/-!
# Drawings, cell by cell

Everything on the screen is drawn by changing cells, and what becomes of a cell depends on that cell
only.  `Drawing` says so of a function on frames, together with the region that it stays in.  It is
closed under doing nothing, one thing after another and choosing, so each part of the screen is a
drawing because its parts are.

Cells are compared by a relation `R`.  Equality gives that a drawing makes equal cells of equal
cells, having the same symbol that styles do not matter for what is shown, and a property of one
cell that it is kept.  What `R` has to bear is said once: `Writable R` for symbols, `Style.Bears R`
for looks.

The parts here are lines (`Line.drawing_draw`), the ring of a box around its inside
(`Box.drawing_draw`, `Box.cellAt_draw_inner`) and the rows of a paragraph
(`Paragraph.drawing_drawRows`).
-/

namespace Showcase.Screen

/-! ## Cells that stay -/

namespace Frame

theorem cellAt_of_outside (f : Frame) {x y : Nat} (outside : ¬(x < f.width ∧ y < f.height)) :
    f.cellAt x y = {} := by
  unfold cellAt
  split
  next inRow =>
    have below : f.height ≤ y := by omega
    have last : f.cells.size ≤ y * f.width + x := by
      rw [f.size_cells, Nat.mul_comm]
      exact Nat.le_add_right_of_le (Nat.mul_le_mul_right _ below)
    rw [Array.getElem?_eq_none last]
    rfl
  next => rfl

theorem cellAt_change_of_ne (f : Frame) {x y x' y' : Nat} (g : Cell → Cell)
    (other : ¬(x' = x ∧ y' = y)) : (f.change x y g).cellAt x' y' = f.cellAt x' y' := by
  by_cases inside : x < f.width ∧ y < f.height
  · rw [cellAt_change f g inside.1 inside.2, if_neg other]
  · by_cases inside' : x' < f.width ∧ y' < f.height
    · unfold change
      split
      next inRow =>
        have : ¬(y * f.width + x = y' * f.width + x') := by
          intro same
          obtain ⟨rfl, rfl⟩ := place_inj inRow inside'.1 same
          exact inside inside'
        simp [cellAt, Array.getElem?_modify, this]
      next => rfl
    · rw [cellAt_of_outside f inside', cellAt_of_outside _ (by simpa using inside')]

theorem cellAt_changeIn_of_not_has (f : Frame) {r : Rect} {x y : Nat} (g : Cell → Cell)
    (outside : r.has x y = false) : (f.changeIn r g).cellAt x y = f.cellAt x y := by
  by_cases inside : x < f.width ∧ y < f.height
  · rw [cellAt_changeIn f r g inside.1 inside.2, outside]
    rfl
  · rw [cellAt_of_outside f inside, cellAt_of_outside (f.changeIn r g) inside]

end Frame

theorem Rect.has_iff {r : Rect} {x y : Nat} :
    r.has x y = true ↔ r.x ≤ x ∧ x < r.right ∧ r.y ≤ y ∧ y < r.bottom := by
  simp [Rect.has, and_assoc]

theorem Rect.has_inner_iff {r : Rect} {x y : Nat} :
    r.inner.has x y = true ↔
      r.x + 1 ≤ x ∧ x + 1 < r.right ∧ r.y + 1 ≤ y ∧ y + 1 < r.bottom := by
  simp only [Rect.has_iff, Rect.inner, Rect.right, Rect.bottom]
  omega

theorem Rect.has_of_lt {r : Rect} {column row : Nat} (inRow : column < r.width)
    (inColumn : row < r.height) : r.has (r.x + column) (r.y + row) = true := by
  rw [Rect.has_iff, Rect.right, Rect.bottom]
  omega

theorem Rect.has_of_has_inner {r : Rect} {x y : Nat} (has : r.inner.has x y = true) :
    r.has x y = true := by
  have := Rect.has_inner_iff.1 has
  rw [Rect.has_iff]
  omega

theorem Frame.lt_of_has {f : Frame} {r : Rect} (inFrame : r.Inside f.area) {x y : Nat}
    (has : r.has x y = true) : x < f.width ∧ y < f.height := by
  have := Rect.has_iff.1 has
  simp only [Rect.Inside, Frame.area, Rect.right, Rect.bottom] at inFrame this
  omega

/-! ## Drawings -/

/-- A function on frames that draws: it stays in a region, and related cells become related
cells. -/
structure Drawing (region : Nat → Nat → Prop) (R : Cell → Cell → Prop) (d : Frame → Frame) :
    Prop where
  width : ∀ f, (d f).width = f.width
  height : ∀ f, (d f).height = f.height
  outside : ∀ f {x y}, ¬ region x y → (d f).cellAt x y = f.cellAt x y
  related : ∀ {f g x y}, f.width = g.width → f.height = g.height →
    R (f.cellAt x y) (g.cellAt x y) → R ((d f).cellAt x y) ((d g).cellAt x y)

/-- A relation between cells that writing symbols keeps. -/
structure Writable (R : Cell → Cell → Prop) : Prop where
  empty : R {} {}
  symbol : ∀ {c d} symbol, R c d → R (c.withSymbol symbol) (d.withSymbol symbol)
  more : ∀ {c d} more, R c d → R (c.appending more) (d.appending more)

/-- A style keeps a relation between cells. -/
def Style.Bears (R : Cell → Cell → Prop) (s : Style) : Prop :=
  ∀ ⦃c d⦄, R c d → R (c.withStyle s) (d.withStyle s)

theorem writable_eq : Writable (· = ·) :=
  ⟨rfl, fun symbol same => congrArg (·.withSymbol symbol) same,
    fun more same => congrArg (·.appending more) same⟩

theorem Style.bears_eq (s : Style) : s.Bears (· = ·) :=
  fun _ _ same => congrArg (·.withStyle s) same

namespace Drawing

variable {region : Nat → Nat → Prop} {R : Cell → Cell → Prop} {d d' : Frame → Frame}

theorem nothing : Drawing region R fun f => f :=
  ⟨fun _ => rfl, fun _ => rfl, fun _ _ _ _ => rfl, fun _ _ related => related⟩

theorem andThen (first : Drawing region R d) (second : Drawing region R d') :
    Drawing region R fun f => d' (d f) where
  width f := (second.width (d f)).trans (first.width f)
  height f := (second.height (d f)).trans (first.height f)
  outside f _ _ away := (second.outside (d f) away).trans (first.outside f away)
  related {f g} _ _ width height related := by
    refine second.related ?_ ?_ (first.related width height related)
    · rw [first.width, first.width, width]
    · rw [first.height, first.height, height]

theorem ite {c : Prop} [Decidable c] (yes : Drawing region R d) (no : Drawing region R d') :
    Drawing region R fun f => if c then d f else d' f := by
  split
  · exact yes
  · exact no

theorem mono {region' : Nat → Nat → Prop} (drawing : Drawing region R d)
    (wider : ∀ x y, region x y → region' x y) : Drawing region' R d :=
  ⟨drawing.width, drawing.height, fun f _ _ away => drawing.outside f (mt (wider _ _) away),
    drawing.related⟩

theorem change {x y : Nat} {u : Cell → Cell} (inside : region x y)
    (keeps : ∀ {c d}, R c d → R (u c) (u d)) : Drawing region R (·.change x y u) where
  width f := f.width_change x y u
  height f := f.height_change x y u
  outside f x' y' away := by
    refine f.cellAt_change_of_ne u ?_
    rintro ⟨rfl, rfl⟩
    exact away inside
  related {f g x' y'} width height related := by
    by_cases here : x' = x ∧ y' = y
    · obtain ⟨rfl, rfl⟩ := here
      by_cases inFrame : x' < f.width ∧ y' < f.height
      · rw [f.cellAt_change u inFrame.1 inFrame.2, if_pos ⟨rfl, rfl⟩,
          g.cellAt_change u (width ▸ inFrame.1) (height ▸ inFrame.2), if_pos ⟨rfl, rfl⟩]
        exact keeps related
      · rw [f.cellAt_of_outside inFrame, g.cellAt_of_outside (width ▸ height ▸ inFrame)] at related
        rw [Frame.cellAt_of_outside _ (by simpa using inFrame),
          Frame.cellAt_of_outside _ (by simpa [← width, ← height] using inFrame)]
        exact related
    · rw [f.cellAt_change_of_ne u here, g.cellAt_change_of_ne u here]
      exact related

theorem changeIn {r : Rect} {u : Cell → Cell} (inside : ∀ x y, r.has x y = true → region x y)
    (keeps : ∀ {c d}, R c d → R (u c) (u d)) : Drawing region R (·.changeIn r u) where
  width _ := rfl
  height _ := rfl
  outside f x y away :=
    f.cellAt_changeIn_of_not_has u (Bool.eq_false_iff.2 (mt (inside x y) away))
  related {f g x y} width height related := by
    cases here : r.has x y with
    | false =>
        rw [f.cellAt_changeIn_of_not_has u here, g.cellAt_changeIn_of_not_has u here]
        exact related
    | true =>
        by_cases inFrame : x < f.width ∧ y < f.height
        · rw [f.cellAt_changeIn r u inFrame.1 inFrame.2,
            g.cellAt_changeIn r u (width ▸ inFrame.1) (height ▸ inFrame.2), if_pos here,
            if_pos here]
          exact keeps related
        · have inFrame' : ¬(x < g.width ∧ y < g.height) := width ▸ height ▸ inFrame
          rw [f.cellAt_of_outside inFrame, g.cellAt_of_outside inFrame'] at related
          rw [Frame.cellAt_of_outside (f.changeIn r u) inFrame,
            Frame.cellAt_of_outside (g.changeIn r u) inFrame']
          exact related

theorem restyle {r : Rect} {s : Style} (inside : ∀ x y, r.has x y = true → region x y)
    (bears : s.Bears R) : Drawing region R (·.restyle r s) :=
  changeIn inside fun related => bears related

theorem clear {r : Rect} (inside : ∀ x y, r.has x y = true → region x y) (writable : Writable R) :
    Drawing region R (·.clear r) := changeIn inside fun _ => writable.empty

end Drawing

/-! ## Lines -/

/-- The columns of a row from `left` on and before `right`. -/
def Strip (y left right x' y' : Nat) : Prop := y' = y ∧ left ≤ x' ∧ x' < right

section Lines

variable {R : Cell → Cell → Prop} (writable : Writable R)

include writable

theorem drawing_put {region : Nat → Nat → Prop} {x y : Nat} (inside : region x y) {g : Glyph}
    (bears : g.style.Bears R) :
    Drawing region R (·.change x y fun c => (c.withSymbol g.symbol).withStyle g.style) :=
  .change inside fun related => bears (writable.symbol g.symbol related)

theorem drawing_join {region : Nat → Nat → Prop} {x y : Nat} (inside : region x y) {g : Glyph}
    (bears : g.style.Bears R) :
    Drawing region R (·.change x y fun c => (c.appending g.symbol).withStyle g.style) :=
  .change inside fun related => bears (writable.more g.symbol related)

/-- A glyph without a width is joined to a cell of the span, and the first glyph stands in its first
cell, so all of them stay between the two columns. -/
theorem drawing_drawGlyphs {y left right : Nat} (room : left < right) (gs : List Glyph)
    (bears : ∀ g ∈ gs, g.style.Bears R) {x : Nat} {first : Bool} (begun : left ≤ x)
    (start : first = true → x = left) :
    Drawing (Strip y left right) R fun f => drawGlyphs f y left right x first gs := by
  induction gs generalizing x first with
  | nil => exact .nothing
  | cons g gs induction =>
      obtain ⟨here, later⟩ := List.forall_mem_cons.1 bears
      by_cases fits : right < x + g.width
      · simp only [drawGlyphs, fits, if_true]
        exact .nothing
      simp only [drawGlyphs, fits, if_false]
      have drawn : Drawing (Strip y left right) R fun f =>
          if first then f.change x y fun c => (c.withSymbol g.symbol).withStyle g.style
          else if x = left then f.change x y fun c => (c.appending g.symbol).withStyle g.style
          else if g.width = 0 then
            f.change (x - 1) y fun c => (c.appending g.symbol).withStyle g.style
          else f.change x y fun c => (c.withSymbol g.symbol).withStyle g.style := by
        cases first with
        | true =>
            obtain rfl := start rfl
            exact drawing_put writable ⟨rfl, begun, room⟩ here
        | false =>
            by_cases atLeft : x = left
            · subst atLeft
              simp only [Bool.false_eq_true, if_false, if_true]
              exact drawing_join writable ⟨rfl, begun, room⟩ here
            by_cases narrow : g.width = 0
            · simp only [Bool.false_eq_true, if_false, atLeft, narrow, if_true]
              exact drawing_join writable ⟨rfl, by omega, by omega⟩ here
            · simp only [Bool.false_eq_true, if_false, atLeft, narrow]
              exact drawing_put writable ⟨rfl, begun, by omega⟩ here
      have emptied : Drawing (Strip y left right) R fun f =>
          if g.width ≤ 1 then f else f.clear ⟨x + 1, y, g.width - 1, 1⟩ := by
        refine .ite .nothing (.clear (fun x' y' has => ?_) writable)
        have := Rect.has_iff.1 has
        simp only [Rect.right, Rect.bottom] at this
        exact ⟨by omega, by omega, by omega⟩
      exact (drawn.andThen emptied).andThen (induction later (by omega) (by simp))

theorem Span.drawing_draw (s : Span) (r : Rect) (bears : s.style.Bears R) :
    Drawing (Strip r.y r.x r.right) R (s.draw · r) := by
  by_cases empty : r.isEmpty
  · simp only [Span.draw, empty, if_true]
    exact .nothing
  · simp only [Span.draw, empty, Bool.false_eq_true, if_false]
    refine drawing_drawGlyphs writable ?_ _ (fun g member => ?_) (Nat.le_refl _) fun _ => rfl
    · simp only [Rect.isEmpty, Bool.or_eq_true, decide_eq_true_eq] at empty
      simp only [Rect.right]
      omega
    · obtain ⟨_, _, rfl⟩ := List.mem_map.1 member
      exact bears

theorem drawing_drawSpans (spans : List Span) (bears : ∀ s ∈ spans, s.style.Bears R)
    {y left right : Nat} {r : Rect} (here : r.y = y) (above : left ≤ r.x) (below : r.right ≤ right)
    (skip : Nat) : Drawing (Strip y left right) R fun f => drawSpans f r skip spans := by
  induction spans generalizing r skip with
  | nil => exact .nothing
  | cons s spans induction =>
      obtain ⟨first, later⟩ := List.forall_mem_cons.1 bears
      have wider (r' : Rect) (here : r'.y = y) (above : left ≤ r'.x) (below : r'.right ≤ right) :
          ∀ x' y', Strip r'.y r'.x r'.right x' y' → Strip y left right x' y' := by
        rintro x' y' ⟨rfl, _, _⟩
        exact ⟨here, by omega, by omega⟩
      -- a rectangle without its first columns ends where it ended
      have indented (r' : Rect) (above : left ≤ r'.x) (below : r'.right ≤ right) (columns : Nat) :
          left ≤ (r'.indent columns).x ∧ (r'.indent columns).right ≤ right := by
        simp only [Rect.indent, Rect.right] at *
        omega
      simp only [drawSpans]
      by_cases skipped : s.width ≤ skip
      · simp only [skipped, if_true]
        exact induction later here above below _
      simp only [skipped, if_false]
      by_cases whole : skip = 0
      · simp only [whole, if_true]
        obtain ⟨above', below'⟩ := indented r above below s.width
        exact .ite .nothing <|
          ((s.drawing_draw writable r first).mono (wider r here above below)).andThen
            (induction later (r := r.indent s.width) here above' below' 0)
      · simp only [whole, if_false]
        obtain ⟨above', below'⟩ := indented r above below (s.cutLeft skip).2
        obtain ⟨above'', below''⟩ := indented _ above' below' (s.cutLeft skip).1.width
        exact .ite .nothing <|
          (((s.cutLeft skip).1.drawing_draw writable (r.indent _) first).mono
            (wider (r.indent _) here above' below')).andThen
              (induction later (r := (r.indent _).indent _) here above'' below'' 0)

/-- A line stays in the first row of its rectangle. -/
theorem Line.drawing_draw (l : Line) (r : Rect) (bears : ∀ s ∈ l.spans, s.style.Bears R) :
    Drawing (Strip r.y r.x r.right) R (l.draw · r) := by
  dsimp only [Line.draw]
  refine .ite .nothing (.ite ?_ ?_)
  · refine drawing_drawSpans writable _ bears (by rfl) ?_ ?_ _
    all_goals
      simp only [Rect.indent, Rect.right]
      omega
  · refine drawing_drawSpans writable _ bears (by rfl) ?_ ?_ _
    all_goals exact Nat.le_refl _

end Lines

/-! ## Boxes -/

/-- The cells of a rectangle that its inside leaves out. -/
def Rect.Ring (r : Rect) (x y : Nat) : Prop := r.has x y = true ∧ r.inner.has x y = false

theorem Rect.ring_of_edge {r : Rect} {x y : Nat} (has : r.has x y = true)
    (edge : x = r.x ∨ x + 1 = r.right ∨ y = r.y ∨ y + 1 = r.bottom) : r.Ring x y := by
  refine ⟨has, Bool.eq_false_iff.2 fun inner => ?_⟩
  have := Rect.has_inner_iff.1 inner
  omega

namespace Box

theorem drawing_drawBorder (b : Box) {r : Rect} (size : r.width ≠ 0 ∧ r.height ≠ 0) :
    Drawing r.Ring (· = ·) (b.drawBorder · r) := by
  have part {side : Rect} (symbol : Char)
      (edge : ∀ x y, side.has x y = true → r.has x y = true ∧
        (x = r.x ∨ x + 1 = r.right ∨ y = r.y ∨ y + 1 = r.bottom)) :
      Drawing r.Ring (· = ·) (b.drawPart · side symbol) :=
    .changeIn (fun x y has => Rect.ring_of_edge (edge x y has).1 (edge x y has).2)
      fun same => b.border.bears_eq (writable_eq.symbol [symbol] same)
  refine .andThen (.andThen (.andThen (.andThen (.andThen (.andThen (.andThen
    (part _ ?_) (part _ ?_)) (part _ ?_)) (part _ ?_)) (part _ ?_)) (part _ ?_))
    (part _ ?_)) (part _ ?_)
  all_goals
    intro x y has
    rw [Rect.has_iff] at has ⊢
    simp only [Rect.right, Rect.bottom] at has ⊢
    omega

/-- A title stays between the corners. -/
theorem drawing_drawTitle (b : Box) (row : Rect) (l : Option Line) :
    Drawing (Strip row.y row.x row.right) (· = ·) (b.drawTitle · row l) := by
  cases l with
  | none => exact .nothing
  | some l =>
      have within : row.x ≤ (b.titleRect row l).x ∧ (b.titleRect row l).right ≤ row.right := by
        unfold titleRect
        cases l.align.getD b.align
        all_goals
          simp only [Rect.right]
          omega
      have line := l.drawing_draw writable_eq (b.titleRect row l) fun s _ => s.style.bears_eq
      refine .ite .nothing (.andThen (.restyle (fun x y has => ?_) b.title.bears_eq)
        (line.mono fun x y strip => ?_))
      · have := Rect.has_iff.1 has
        have high : (b.titleRect row l).y = row.y ∧ (b.titleRect row l).bottom = row.y + 1 :=
          ⟨rfl, rfl⟩
        exact ⟨by omega, by omega, by omega⟩
      · obtain ⟨here, _, _⟩ := strip
        exact ⟨here, by omega, by omega⟩

/-- What is drawn of a box besides its style is around its inside. -/
theorem exists_drawing_draw (b : Box) (r : Rect) :
    ∃ d, Drawing r.Ring (· = ·) d ∧
      ∀ f, b.draw f r = if r.isEmpty then f else d (f.restyle r b.style) := by
  cases empty : r.isEmpty with
  | true => exact ⟨_, .nothing, fun f => by simp [draw, empty]⟩
  | false =>
      have size : r.width ≠ 0 ∧ r.height ≠ 0 := by simpa [Rect.isEmpty] using empty
      have titles {y : Nat} (edge : y = r.y ∨ y = r.bottom - 1) :
          ∀ x' y', Strip y (r.x + 1) (r.x + 1 + (r.width - 2)) x' y' → r.Ring x' y' := by
        rintro x' y' ⟨rfl, _, _⟩
        refine Rect.ring_of_edge (Rect.has_iff.2 ?_) ?_
        all_goals
          simp only [Rect.right, Rect.bottom] at *
          omega
      have upper := (b.drawing_drawTitle ⟨r.x + 1, r.y, r.width - 2, 1⟩ b.top).mono
        (titles (Or.inl rfl))
      have lower := (b.drawing_drawTitle ⟨r.x + 1, r.bottom - 1, r.width - 2, 1⟩ b.bottom).mono
        (titles (Or.inr rfl))
      exact ⟨_, ((b.drawing_drawBorder size).andThen upper).andThen lower,
        fun f => by simp only [draw, empty, Bool.false_eq_true, if_false]⟩

/-- Inside, all that there is of a box is its style. -/
theorem cellAt_draw_inner (b : Box) (f : Frame) {r : Rect} {x y : Nat}
    (inside : r.inner.has x y = true) :
    (b.draw f r).cellAt x y = (f.restyle r b.style).cellAt x y := by
  obtain ⟨d, drawing, drawn⟩ := b.exists_drawing_draw r
  have some : r.isEmpty = false := by
    have := Rect.has_inner_iff.1 inside
    simp only [Rect.right, Rect.bottom] at this
    simp only [Rect.isEmpty, Bool.or_eq_false_iff, decide_eq_false_iff_not]
    omega
  rw [drawn f, some]
  exact drawing.outside _ fun ring => Bool.eq_false_iff.1 ring.2 inside

theorem drawing_draw (b : Box) (r : Rect) :
    Drawing (fun x y => r.has x y = true) (· = ·) (b.draw · r) := by
  obtain ⟨d, drawing, drawn⟩ := b.exists_drawing_draw r
  simp only [drawn]
  exact .ite .nothing (.andThen (.restyle (fun _ _ has => has) b.style.bears_eq)
    (drawing.mono fun _ _ ring => ring.1))

end Box

/-! ## Rows of paragraphs -/

namespace Paragraph

theorem drawing_drawRow {R : Cell → Cell → Prop} (writable : Writable R) (gs : List Glyph)
    (bears : ∀ g ∈ gs, g.style.Bears R) (y x : Nat) :
    Drawing (Strip y x (x + glyphsWidth gs)) R fun f => drawRow f y x gs := by
  induction gs generalizing x with
  | nil => exact .nothing
  | cons g gs induction =>
      obtain ⟨here, later⟩ := List.forall_mem_cons.1 bears
      have whole : glyphsWidth (g :: gs) = g.width + glyphsWidth gs := rfl
      by_cases narrow : g.width = 0
      · simp only [drawRow, narrow, if_true, whole, Nat.zero_add]
        exact induction later x
      · simp only [drawRow, narrow, if_false, whole]
        refine .andThen (drawing_put writable ⟨rfl, by omega, by omega⟩ here)
          ((induction later (x + g.width)).mono ?_)
        rintro x' y' ⟨row, _, _⟩
        exact ⟨row, by omega, by omega⟩

theorem drawing_drawRows (rows : List (Align × List Glyph)) (left columns y : Nat) :
    Drawing (fun _ y' => y ≤ y') (· = ·) fun f => drawRows f left columns y rows := by
  induction rows generalizing y with
  | nil => exact .nothing
  | cons row rows induction =>
      have first (x : Nat) := drawing_drawRow writable_eq row.2 (fun g _ => g.style.bears_eq) y x
      refine .andThen ((first _).mono ?_) ((induction (y + 1)).mono fun _ _ => Nat.le_of_succ_le)
      rintro x' y' ⟨rfl, _⟩
      exact Nat.le_refl _

/-- What becomes of a cell when a paragraph is drawn depends on that cell only. -/
theorem drawing_draw (p : Paragraph) (r : Rect) :
    Drawing (fun _ _ => True) (· = ·) (p.draw · r) := by
  have restyled (r : Rect) : Drawing (fun _ _ => True) (· = ·) (·.restyle r p.style) :=
    .restyle (fun _ _ _ => trivial) p.style.bears_eq
  have written (left columns y : Nat) (rows : List (Align × List Glyph)) :
      Drawing (fun _ _ => True) (· = ·) fun f => drawRows f left columns y rows :=
    (drawing_drawRows rows left columns y).mono fun _ _ _ => trivial
  have inside : Drawing (fun _ _ => True) (· = ·) fun f =>
      if (p.inside r).isEmpty then f
      else drawRows (f.restyle (p.inside r) p.style) (p.inside r).x (p.inside r).width
        (p.inside r).y (p.rows (p.inside r).width (p.inside r).height) :=
    .ite .nothing ((restyled _).andThen (written _ _ _ _))
  dsimp only [draw]
  cases p.box with
  | none => exact (restyled r).andThen inside
  | some b =>
      have boxed : Drawing (fun _ _ => True) (· = ·) (b.draw · r) :=
        (b.drawing_draw r).mono fun _ _ _ => trivial
      exact ((restyled r).andThen boxed).andThen inside

end Paragraph

end Showcase.Screen
