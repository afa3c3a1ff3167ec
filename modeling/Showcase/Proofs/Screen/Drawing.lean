import Showcase.Proofs.Screen.Locality

/-!
# What a drawn paragraph shows

The cells inside the box of a paragraph, one by one.  Most of what is drawn does not touch them, or
changes their looks only: `Frame.Spares` says so of a region and is a preorder, so that a drawing
spares what each of its parts spares.  A box spares its inside (`Box.spares_draw`).  The rows of the
text are drawn last, so that each cell inside shows the glyph that begins there, or what was shown
there before (`Paragraph.symbolAt_draw`).
-/

namespace Showcase.Screen

/-! ## Regions that a drawing leaves alone -/

namespace Frame

/-- What is shown at a place. -/
def symbolAt (f : Frame) (x y : Nat) : List Char := (f.cellAt x y).symbol

/-- A drawing keeps the size of a frame and what it shows in a region. -/
structure Spares (region : Nat → Nat → Prop) (f f' : Frame) : Prop where
  width : f'.width = f.width
  height : f'.height = f.height
  symbols : ∀ x y, region x y → f'.symbolAt x y = f.symbolAt x y

namespace Spares

variable {region : Nat → Nat → Prop} {f f' f'' : Frame}

theorem refl (f : Frame) : Spares region f f := ⟨rfl, rfl, fun _ _ _ => rfl⟩

theorem trans (first : Spares region f f') (second : Spares region f' f'') :
    Spares region f f'' where
  width := second.width.trans first.width
  height := second.height.trans first.height
  symbols x y inside := (second.symbols x y inside).trans (first.symbols x y inside)

/-- A style does not change what is shown. -/
theorem restyle (f : Frame) (r : Rect) (s : Style) : Spares region f (f.restyle r s) := by
  refine ⟨rfl, rfl, fun x y _ => ?_⟩
  cases within : r.has x y with
  | false => rw [symbolAt, Frame.restyle, cellAt_changeIn_of_not_has f _ within, symbolAt]
  | true =>
      by_cases inside : x < f.width ∧ y < f.height
      · rw [symbolAt, Frame.restyle, cellAt_changeIn f r _ inside.1 inside.2, within]
        rfl
      · rw [symbolAt, symbolAt, cellAt_of_outside f inside,
          cellAt_of_outside (f.restyle r s) inside]

end Spares

/-- An emptied cell shows a blank. -/
theorem symbolAt_clear (f : Frame) {r : Rect} {x y : Nat} (within : r.has x y = true) :
    (f.clear r).symbolAt x y = [' '] := by
  by_cases inside : x < f.width ∧ y < f.height
  · rw [symbolAt, clear, cellAt_changeIn f r _ inside.1 inside.2, within]
    rfl
  · rw [symbolAt, cellAt_of_outside (f.clear r) inside]

end Frame

open Showcase.Screen.Frame

/-- A drawing spares what it does not reach. -/
theorem Drawing.spares {region region' : Nat → Nat → Prop} {d : Frame → Frame}
    (drawing : Drawing region' (· = ·) d) (f : Frame) (away : ∀ x y, region x y → ¬ region' x y) :
    Spares region f (d f) := by
  refine ⟨drawing.width f, drawing.height f, fun x y inside => ?_⟩
  rw [symbolAt, drawing.outside f (away x y inside), symbolAt]

/-- A box leaves its inside alone. -/
theorem Box.spares_draw (b : Box) (f : Frame) (r : Rect) :
    Spares (fun x y => r.inner.has x y = true) f (b.draw f r) := by
  have drawing := b.drawing_draw r
  have styled : Spares (fun x y => r.inner.has x y = true) f (f.restyle r b.style) := .restyle f r _
  refine ⟨drawing.width f, drawing.height f, fun x y inside => ?_⟩
  rw [symbolAt, b.cellAt_draw_inner f inside]
  exact styled.symbols x y inside

/-! ## Rows of text -/

/-- The glyph that begins at a column of a row. -/
def glyphAt? : List Glyph → Nat → Option Glyph
  | [], _ => none
  | g :: gs, column =>
    if g.width = 0 then glyphAt? gs column
    else if column = 0 then some g
    else if column < g.width then none
    else glyphAt? gs (column - g.width)

theorem mem_of_glyphAt? {row : List Glyph} {column : Nat} {g : Glyph}
    (begun : glyphAt? row column = some g) : g ∈ row := by
  induction row generalizing column with
  | nil => cases begun
  | cons h row induction =>
      rw [glyphAt?] at begun
      split at begun
      next => exact List.mem_cons_of_mem h (induction begun)
      next =>
        split at begun
        next =>
          cases begun
          exact List.mem_cons_self
        next =>
          split at begun
          next => cases begun
          next => exact List.mem_cons_of_mem h (induction begun)

/-- A glyph begins where the glyphs before it end. -/
theorem glyphAt?_append {before after : List Glyph} {g : Glyph} (wide : 0 < g.width) :
    glyphAt? (before ++ g :: after) (glyphsWidth before) = some g := by
  induction before with
  | nil => simp [glyphAt?, glyphsWidth, Nat.ne_of_gt wide]
  | cons h before induction =>
      change glyphAt? (h :: (before ++ g :: after)) (h.width + glyphsWidth before) = some g
      rw [glyphAt?]
      split
      next none => rwa [none, Nat.zero_add]
      next some =>
        rw [if_neg (by omega), if_neg (by omega), Nat.add_sub_cancel_left, induction]

namespace Paragraph

/-- What begins at a column of a rectangle that shows a row. -/
def placed? (columns : Nat) (row : Align × List Glyph) (column : Nat) : Option Glyph :=
  let start := offset columns row.1 row.2
  if start ≤ column then glyphAt? row.2 (column - start) else none

theorem placed?_left (columns : Nat) (row : List Glyph) (column : Nat) :
    placed? columns (.left, row) column = glyphAt? row column := by
  simp [placed?, offset]

theorem spares_drawRow {region : Nat → Nat → Prop} {x y : Nat}
    (off : ∀ x', x ≤ x' → ¬ region x' y) (gs : List Glyph) (f : Frame) :
    Spares region f (drawRow f y x gs) := by
  refine (drawing_drawRow writable_eq gs (fun g _ => g.style.bears_eq) y x).spares f ?_
  rintro x' y' inside ⟨rfl, later, _⟩
  exact off x' later inside

theorem spares_drawRows {region : Nat → Nat → Prop} {y : Nat}
    (off : ∀ x y', y ≤ y' → ¬ region x y') (rows : List (Align × List Glyph)) (f : Frame)
    (left columns : Nat) : Spares region f (drawRows f left columns y rows) :=
  (drawing_drawRows rows left columns y).spares f
    fun x y' inside later => off x y' later inside

/-- A row shows each glyph where it begins, and between them what was shown before. -/
theorem symbolAt_drawRow (gs : List Glyph) (f : Frame) (left : Nat) {column y : Nat}
    (inRow : left + column < f.width) (inColumn : y < f.height) :
    (drawRow f y left gs).symbolAt (left + column) y =
      ((glyphAt? gs column).map (·.symbol)).getD (f.symbolAt (left + column) y) := by
  induction gs generalizing f left column with
  | nil => rfl
  | cons g gs induction =>
      rw [drawRow, glyphAt?]
      by_cases narrow : g.width = 0
      · rw [if_pos narrow, if_pos narrow]
        exact induction f left inRow inColumn
      rw [if_neg narrow, if_neg narrow]
      generalize glyph : (fun c : Cell => (c.withSymbol g.symbol).withStyle g.style) = change
      have rest : Spares (fun x _ => x < left + g.width) (f.change left y change)
          (drawRow (f.change left y change) y (left + g.width) gs) := by
        refine spares_drawRow ?_ gs _
        exact fun _ later => Nat.not_lt.2 later
      by_cases first : column = 0
      · subst first
        rw [Nat.add_zero] at inRow
        rw [if_pos rfl, rest.symbols _ _ (by omega), symbolAt, Nat.add_zero,
          cellAt_change f change inRow inColumn, if_pos ⟨rfl, rfl⟩, ← glyph]
        rfl
      have before : (f.change left y change).symbolAt (left + column) y =
          f.symbolAt (left + column) y := by
        rw [symbolAt, cellAt_change_of_ne f change (by omega), symbolAt]
      rw [if_neg first]
      by_cases covered : column < g.width
      · rw [if_pos covered, rest.symbols _ _ (by omega), before]
        rfl
      · have next := induction (f.change left y change) (left + g.width)
          (by rw [width_change]; omega : left + g.width + (column - g.width) < _)
          (by rw [height_change]; exact inColumn)
        rw [show left + g.width + (column - g.width) = left + column by omega] at next
        rw [if_neg covered, next, before]

/-- The same for a row that is moved to its side. -/
theorem symbolAt_drawRow_placed (row : Align × List Glyph) (f : Frame) (left columns : Nat)
    {column y : Nat} (inRow : left + column < f.width) (inColumn : y < f.height) :
    (drawRow f y (left + offset columns row.1 row.2) row.2).symbolAt (left + column) y =
      ((placed? columns row column).map (·.symbol)).getD (f.symbolAt (left + column) y) := by
  unfold placed?
  by_cases reached : offset columns row.1 row.2 ≤ column
  · obtain ⟨rest, rfl⟩ := Nat.exists_eq_add_of_le reached
    rw [if_pos reached, Nat.add_sub_cancel_left, ← Nat.add_assoc]
    exact symbolAt_drawRow row.2 f _ (by omega) inColumn
  · rw [if_neg reached]
    have spared : Spares (fun x _ => x < left + offset columns row.1 row.2) f
        (drawRow f y (left + offset columns row.1 row.2) row.2) := by
      refine spares_drawRow ?_ row.2 f
      exact fun _ later => Nat.not_lt.2 later
    exact spared.symbols _ _ (by omega)

/-- Rows show their glyphs one below the other. -/
theorem symbolAt_drawRows (rows : List (Align × List Glyph)) (f : Frame) (left columns y : Nat)
    {column i : Nat} (inRow : left + column < f.width) (inColumn : y + i < f.height) :
    (drawRows f left columns y rows).symbolAt (left + column) (y + i) =
      ((rows[i]?.bind (placed? columns · column)).map (·.symbol)).getD
        (f.symbolAt (left + column) (y + i)) := by
  induction rows generalizing f y i with
  | nil => simp [drawRows]
  | cons row rows induction =>
      have above : Spares (fun _ y' => y' ≠ y) f
          (drawRow f y (left + offset columns row.1 row.2) row.2) :=
        spares_drawRow (fun _ _ other => other rfl) row.2 f
      rw [drawRows]
      cases i with
      | zero =>
          have below : Spares (fun _ y' => y' ≤ y) _ (drawRows _ left columns (y + 1) rows) :=
            spares_drawRows (fun _ _ later => Nat.not_le.2 later) rows
              (drawRow f y (left + offset columns row.1 row.2) row.2) left columns
          rw [Nat.add_zero y] at inColumn ⊢
          rw [below.symbols _ _ (Nat.le_refl y), symbolAt_drawRow_placed row f left columns inRow
            inColumn]
          rfl
      | succ i =>
          have next := induction (drawRow f y (left + offset columns row.1 row.2) row.2) (y + 1)
            (i := i) (by rw [above.width]; exact inRow) (by rw [above.height]; omega)
          rw [show y + 1 + i = y + (i + 1) by omega] at next
          rw [next, above.symbols _ _ (by omega)]
          rfl

theorem has_of_has_inside {p : Paragraph} {r : Rect} {x y : Nat}
    (has : (p.inside r).has x y = true) : r.has x y = true := by
  unfold inside at has
  split at has
  · exact Rect.has_of_has_inner has
  · exact has

/-- The rows of a paragraph are drawn last, and nothing drawn before them shows inside. -/
theorem exists_draw_eq (p : Paragraph) (f : Frame) {r : Rect}
    (filled : (p.inside r).isEmpty = false) :
    ∃ under, Spares (fun x y => (p.inside r).has x y = true) f under ∧
      p.draw f r = drawRows under (p.inside r).x (p.inside r).width (p.inside r).y
        (p.rows (p.inside r).width (p.inside r).height) := by
  simp only [draw, filled, Bool.false_eq_true, if_false]
  cases boxed : p.box with
  | none => exact ⟨_, .trans (.restyle f r p.style) (.restyle _ _ p.style), rfl⟩
  | some b =>
      have spared := b.spares_draw (f.restyle r p.style) r
      have inner : p.inside r = r.inner := by rw [inside, boxed]
      rw [← inner] at spared
      exact ⟨_, .trans (.trans (.restyle f r p.style) spared) (.restyle _ _ p.style), rfl⟩

/-- Each cell inside a paragraph shows the glyph that begins there, if any does. -/
theorem symbolAt_draw (p : Paragraph) (f : Frame) {r : Rect} (inFrame : r.Inside f.area)
    {column i : Nat} (inRow : column < (p.inside r).width) (inColumn : i < (p.inside r).height) :
    (p.draw f r).symbolAt ((p.inside r).x + column) ((p.inside r).y + i) =
      (((p.rows (p.inside r).width (p.inside r).height)[i]?.bind
        (placed? (p.inside r).width · column)).map (·.symbol)).getD
          (f.symbolAt ((p.inside r).x + column) ((p.inside r).y + i)) := by
  have within : (p.inside r).has ((p.inside r).x + column) ((p.inside r).y + i) = true :=
    Rect.has_of_lt inRow inColumn
  obtain ⟨right, bottom⟩ := Frame.lt_of_has inFrame (has_of_has_inside within)
  have filled : (p.inside r).isEmpty = false := by
    simp only [Rect.isEmpty, Bool.or_eq_false_iff, decide_eq_false_iff_not]
    omega
  obtain ⟨under, spared, drawn⟩ := p.exists_draw_eq f filled
  rw [drawn, symbolAt_drawRows _ _ _ _ _ (by rwa [spared.width]) (by rwa [spared.height]),
    spared.symbols _ _ within]

end Paragraph

end Showcase.Screen
