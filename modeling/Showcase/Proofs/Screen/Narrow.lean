import Showcase.Proofs.Screen.Drawing
import Showcase.Proofs.Screen.Wrapping

/-!
# Text of one column a character

In most texts each character is a cluster of its own and takes one column: all printable characters
of the basic block are such, and the bar beside the numbers of lines.  A line of such text is shown
character by character, from its first column on, as far as there is room.  It does not matter then
whether it is drawn as a row of a paragraph (`glyphAt?_cutLine`) or as a line of its own
(`Line.draw_of_narrow`).
-/

namespace Showcase

namespace Text

/-! ## Characters -/

/-- All characters are printable ones of the basic block. -/
def Printable (cs : List Char) : Prop := ∀ c ∈ cs, 0x20 ≤ c.toNat ∧ c.toNat < 0x7F

instance (cs : List Char) : Decidable (Printable cs) :=
  List.decidableBAll (fun c : Char => 0x20 ≤ c.toNat ∧ c.toNat < 0x7F) cs

/-- A character that joins no other one and takes one column. -/
structure IsNarrow (c : Char) : Prop where
  other : clusterClass c = .other
  idle : ∀ state : Conjunct, state.next c = .idle
  column : columns [c] = 1

theorem Printable.isNarrow {cs : List Char} (printable : Printable cs) :
    ∀ c ∈ cs, IsNarrow c := by
  intro c member
  obtain ⟨above, below⟩ := printable c member
  refine ⟨?_, fun state => ?_, columns_of_basic fun d single => ?_⟩
  · simp only [clusterClass]
    rw [if_neg (by omega), if_neg (by omega), if_neg (by omega), if_pos below]
  · simp only [Conjunct.next]
    rw [if_pos (by omega)]
  · obtain rfl := List.mem_singleton.1 single
    refine ⟨by omega, ?_⟩
    rintro rfl
    exact absurd above (by decide)

theorem isNarrow_bar : IsNarrow '│' where
  other := by decide +kernel
  idle state := by cases state <;> decide +kernel
  column := by decide +kernel

theorem clustersFrom_of_narrow {cs : List Char} (narrow : ∀ c ∈ cs, IsNarrow c) {ctx : Context}
    (other : ctx.last = .other) (idle : ctx.conjunct = .idle) (begun : List Char) :
    clustersFrom ctx begun cs = begun.reverse :: cs.map ([·]) := by
  induction cs generalizing ctx begun with
  | nil => rfl
  | cons c cs induction =>
      obtain ⟨here, later⟩ := List.forall_mem_cons.1 narrow
      have apart : ctx.joins c = false := by
        simp only [Context.joins, other, here.other, idle]
        rfl
      rw [clustersFrom, apart, if_neg Bool.false_ne_true, induction later here.other (here.idle _)]
      rfl

/-- Each character is a cluster. -/
theorem clusters_of_narrow {cs : List Char} (narrow : ∀ c ∈ cs, IsNarrow c) :
    clusters cs = cs.map ([·]) := by
  cases cs with
  | nil => rfl
  | cons c cs =>
      obtain ⟨here, later⟩ := List.forall_mem_cons.1 narrow
      rw [clusters, clustersFrom_of_narrow later here.other (here.idle _)]
      rfl

end Text

namespace Screen

open Showcase.Screen.Frame

/-! ## Glyphs -/

/-- The glyph of a character that takes one column. -/
def Glyph.ofChar (style : Style) (c : Char) : Glyph := ⟨[c], 1, style⟩

theorem Span.glyphs_of_narrow {s : Span} (narrow : ∀ c ∈ s.text, Text.IsNarrow c) :
    s.glyphs = s.text.map (Glyph.ofChar s.style) := by
  have drawn : (s.text.map ([·])).filter (· != ['\n']) = s.text.map ([·]) := by
    rw [List.filter_eq_self]
    intro symbol member
    obtain ⟨c, inText, rfl⟩ := List.mem_map.1 member
    have other := (narrow c inText).other
    have : c ≠ '\n' := by
      rintro rfl
      exact absurd other (by decide)
    simpa using this
  rw [Span.glyphs, Text.clusters_of_narrow narrow, drawn, List.map_map]
  refine List.map_congr_left fun c member => ?_
  simp only [Function.comp_apply, (narrow c member).column, Glyph.ofChar]

/-- All glyphs take one column. -/
def Narrow (gs : List Glyph) : Prop := ∀ g ∈ gs, g.width = 1

theorem narrow_map_ofChar (style : Style) (cs : List Char) :
    Narrow (cs.map (Glyph.ofChar style)) := by
  intro g member
  obtain ⟨c, _, rfl⟩ := List.mem_map.1 member
  rfl

theorem Narrow.of_sublist {gs hs : List Glyph} (narrow : Narrow hs) (sub : gs.Sublist hs) :
    Narrow gs := fun g member => narrow g (sub.mem member)

theorem Narrow.glyphsWidth_eq {gs : List Glyph} (narrow : Narrow gs) :
    glyphsWidth gs = gs.length := by
  induction gs with
  | nil => rfl
  | cons g gs induction =>
      obtain ⟨here, later⟩ := List.forall_mem_cons.1 narrow
      rw [glyphsWidth_cons, here, induction later, List.length_cons, Nat.add_comm]

/-- The glyph at a column is the one of that number. -/
theorem Narrow.glyphAt?_eq {gs : List Glyph} (narrow : Narrow gs) (column : Nat) :
    glyphAt? gs column = gs[column]? := by
  induction gs generalizing column with
  | nil => rfl
  | cons g gs induction =>
      obtain ⟨here, later⟩ := List.forall_mem_cons.1 narrow
      cases column with
      | zero => simp [glyphAt?, here]
      | succ column => simp [glyphAt?, here, induction later]

theorem Narrow.fit_eq {gs : List Glyph} (narrow : Narrow gs) (room : Nat) :
    cutLine.fit room gs = gs.take room := by
  induction gs generalizing room with
  | nil => simp [cutLine.fit]
  | cons g gs induction =>
      obtain ⟨here, later⟩ := List.forall_mem_cons.1 narrow
      cases room with
      | zero => simp [cutLine.fit, here]
      | succ room => simp [cutLine.fit, here, induction later]

/-- A line is cut after as many glyphs as there are columns. -/
theorem Narrow.cutLine_eq {gs : List Glyph} (narrow : Narrow gs) (columns : Nat) :
    cutLine columns gs = gs.take columns := by
  cases columns with
  | zero =>
      have none : gs.filter (fun g => decide (g.width ≤ 0)) = [] := by
        rw [List.filter_eq_nil_iff]
        intro g member
        simp [narrow g member]
      rw [cutLine, none]
      rfl
  | succ columns =>
      have all : gs.filter (fun g => decide (g.width ≤ columns + 1)) = gs := by
        rw [List.filter_eq_self]
        intro g member
        simp [narrow g member]
      rw [cutLine, all, narrow.fit_eq]

/-- So a cut line shows its glyphs in the columns of their numbers. -/
theorem Narrow.glyphAt?_cutLine {gs : List Glyph} (narrow : Narrow gs) {columns column : Nat}
    (inRow : column < columns) : glyphAt? (cutLine columns gs) column = gs[column]? := by
  rw [narrow.cutLine_eq, (narrow.of_sublist (List.take_sublist _ _)).glyphAt?_eq,
    List.getElem?_take_of_lt inRow]

/-! ## Lines -/

theorem Narrow.drawGlyphs_eq {gs : List Glyph} (narrow : Narrow gs) (f : Frame)
    {y left right x : Nat} {first : Bool} (begun : left ≤ x) (start : first = true ↔ x = left) :
    drawGlyphs f y left right x first gs = Paragraph.drawRow f y x (gs.take (right - x)) := by
  induction gs generalizing f x first with
  | nil => rw [List.take_nil]; rfl
  | cons g gs induction =>
      obtain ⟨here, later⟩ := List.forall_mem_cons.1 narrow
      by_cases full : right < x + 1
      · simp only [drawGlyphs, here, full, if_true]
        rw [show right - x = 0 by omega, List.take_zero]
        rfl
      have one : drawGlyphs f y left right x first (g :: gs) =
          drawGlyphs (f.change x y fun c => (c.withSymbol g.symbol).withStyle g.style) y left right
            (x + 1) false gs := by
        cases first with
        | true => simp [drawGlyphs, here, full]
        | false =>
            have : x ≠ left := fun same => Bool.false_ne_true (start.2 same)
            simp [drawGlyphs, here, full, this]
      have later_column : false = true ↔ x + 1 = left := by
        simp only [Bool.false_eq_true, false_iff]
        omega
      rw [one, induction later _ (by omega) later_column,
        show right - x = (right - (x + 1)) + 1 by omega, List.take_succ_cons, Paragraph.drawRow,
        here, if_neg Nat.one_ne_zero]

theorem Span.draw_of_narrow {s : Span} (narrow : Narrow s.glyphs) (f : Frame) (r : Rect)
    (high : 0 < r.height) :
    s.draw f r = Paragraph.drawRow f r.y r.x (s.glyphs.take r.width) := by
  unfold Span.draw
  split
  next empty =>
    have : r.width = 0 := by
      simp only [Rect.isEmpty, Bool.or_eq_true, decide_eq_true_eq] at empty
      omega
    rw [this, List.take_zero]
    rfl
  next =>
    rw [narrow.drawGlyphs_eq f (Nat.le_refl _) (by simp), Rect.right, Nat.add_sub_cancel_left]

theorem Paragraph.drawRow_append (gs hs : List Glyph) (f : Frame) (y x : Nat) :
    drawRow f y x (gs ++ hs) = drawRow (drawRow f y x gs) y (x + glyphsWidth gs) hs := by
  induction gs generalizing f x with
  | nil => rfl
  | cons g gs induction =>
      rw [List.cons_append, drawRow, drawRow, glyphsWidth_cons]
      split
      next none => rw [induction, none, Nat.zero_add]
      next some => rw [induction, Nat.add_assoc]

/-- A span whose glyphs take one column each, also when its columns are counted as a whole. -/
structure Span.IsNarrow (s : Span) : Prop where
  glyphs : Narrow s.glyphs
  width : s.width = s.glyphs.length

theorem Span.isNarrow_of_printable {s : Span} (printable : Text.Printable s.text) :
    s.IsNarrow := by
  have cut := Span.glyphs_of_narrow printable.isNarrow
  have columns : Text.columns s.text = s.text.length := by
    refine Text.columns_of_basic fun c member => ?_
    obtain ⟨above, below⟩ := printable c member
    refine ⟨by omega, ?_⟩
    rintro rfl
    exact absurd above (by decide)
  constructor
  · rw [cut]
    exact narrow_map_ofChar s.style s.text
  · rw [cut, List.length_map]
    exact columns

theorem drawSpans_of_narrow {spans : List Span} (narrow : ∀ s ∈ spans, s.IsNarrow) (f : Frame)
    {r : Rect} (high : 0 < r.height) :
    drawSpans f r 0 spans =
      Paragraph.drawRow f r.y r.x ((spans.flatMap Span.glyphs).take r.width) := by
  induction spans generalizing f r with
  | nil =>
      rw [List.flatMap_nil, List.take_nil]
      rfl
  | cons s spans induction =>
      obtain ⟨here, later⟩ := List.forall_mem_cons.1 narrow
      rw [drawSpans, List.flatMap_cons]
      by_cases none : s.width ≤ 0
      · have : s.glyphs = [] := by
          rw [← List.length_eq_zero_iff, ← here.width]
          omega
        rw [if_pos none, Nat.zero_sub, induction later f high, this, List.nil_append]
      rw [if_neg none, if_pos rfl]
      by_cases empty : r.width = 0
      · rw [if_pos (by simp [Rect.isEmpty, empty]), empty, List.take_zero]
        rfl
      have filled : r.isEmpty = false := by simp [Rect.isEmpty, empty, Nat.ne_of_gt high]
      rw [filled, if_neg Bool.false_ne_true, induction later _ (by exact high),
        s.draw_of_narrow here.glyphs f r high, List.take_append, Paragraph.drawRow_append,
        (here.glyphs.of_sublist (List.take_sublist _ _)).glyphsWidth_eq, List.length_take,
        here.width]
      -- beyond the right edge there is nothing left to draw, wherever it would begin
      by_cases full : r.width ≤ s.glyphs.length
      · have left : (r.indent s.glyphs.length).width = 0 := Nat.sub_eq_zero_of_le full
        rw [left, Nat.sub_eq_zero_of_le full, List.take_zero]
        rfl
      · have next : (r.indent s.glyphs.length).x = r.x + min r.width s.glyphs.length := by
          simp only [Rect.indent, Rect.right]
          omega
        rw [next]
        rfl

theorem Line.length_glyphs_of_narrow {l : Line} (narrow : ∀ s ∈ l.spans, s.IsNarrow) :
    l.glyphs.length = l.width := by
  unfold Line.glyphs Line.width
  generalize l.spans = spans at narrow
  induction spans with
  | nil => rfl
  | cons s spans induction =>
      obtain ⟨here, later⟩ := List.forall_mem_cons.1 narrow
      rw [List.flatMap_cons, List.length_append, List.map_cons, List.foldr_cons, induction later,
        here.width]

/-- A line at the left side is drawn glyph by glyph, as far as there is room. -/
theorem Line.draw_of_narrow {l : Line} (narrow : ∀ s ∈ l.spans, s.IsNarrow)
    (left : l.align.getD .left = .left) (f : Frame) (x y width : Nat) :
    l.draw f ⟨x, y, width, 1⟩ = Paragraph.drawRow f y x (l.glyphs.take width) := by
  have spans : drawSpans f ⟨x, y, width, 1⟩ 0 l.spans = _ :=
    drawSpans_of_narrow narrow f Nat.one_pos
  have unmoved : (Rect.mk x y width 1).indent 0 = ⟨x, y, width, 1⟩ := by
    simp [Rect.indent, Rect.right]
  simp only [Line.draw, Nat.min_self, left, unmoved, spans, ite_self]
  split
  next nothing =>
    rw [← Line.length_glyphs_of_narrow narrow] at nothing
    have : width = 0 ∨ l.glyphs = [] := by simpa [Rect.isEmpty] using nothing
    rcases this with rfl | none
    · rw [List.take_zero]
      rfl
    · rw [none, List.take_nil]
      rfl
  next => rfl

/-- The characters of a line. -/
def Line.chars (l : Line) : List Char := l.spans.flatMap (·.text)

theorem Line.map_symbol_glyphs {l : Line} (printable : Text.Printable l.chars) :
    l.glyphs.map (·.symbol) = l.chars.map ([·]) := by
  rw [Line.glyphs, Line.chars, List.map_flatMap, List.map_flatMap]
  refine List.flatMap_congr fun s member => ?_
  have here : Text.Printable s.text := fun c inText =>
    printable c (List.mem_flatMap.2 ⟨s, member, inText⟩)
  rw [Span.glyphs_of_narrow here.isNarrow, List.map_map]
  rfl

/-- A printable line at the left side is shown character by character. -/
theorem Line.symbolAt_draw_of_printable {l : Line} (printable : Text.Printable l.chars)
    (left : l.align.getD .left = .left) (f : Frame) {x y width column : Nat}
    (inRow : column < width) (inFrame : x + column < f.width ∧ y < f.height) :
    (l.draw f ⟨x, y, width, 1⟩).symbolAt (x + column) y =
      (l.chars[column]?.map ([·])).getD (f.symbolAt (x + column) y) := by
  have narrow : ∀ s ∈ l.spans, s.IsNarrow := fun s member =>
    Span.isNarrow_of_printable fun c inText => printable c (List.mem_flatMap.2 ⟨s, member, inText⟩)
  have glyphs : Narrow l.glyphs := fun g member => by
    obtain ⟨s, inLine, inSpan⟩ := List.mem_flatMap.1 member
    exact (narrow s inLine).glyphs g inSpan
  rw [Line.draw_of_narrow narrow left, Paragraph.symbolAt_drawRow _ f x inFrame.1 inFrame.2,
    (glyphs.of_sublist (List.take_sublist _ _)).glyphAt?_eq, List.getElem?_take_of_lt inRow,
    ← List.getElem?_map, Line.map_symbol_glyphs printable, List.getElem?_map]

end Screen

end Showcase
