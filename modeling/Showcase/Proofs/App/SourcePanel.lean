import Showcase.App.Panels
import Showcase.Proofs.Screen.Glyphs
import Showcase.Proofs.Screen.Narrow

/-!
# The panel of a source

Each row inside the panel shows one line of the source with its number, and the rows follow the
lines from the scroll position on.  For any text, a cell shows the glyph of its line that begins
there (`Source.symbolAt_draw`).  For printable text, that is a character, and a row is the number
of the line, a bar and the line itself, cut at the right edge (`panel_shows_numbered_lines`).

The panel is emptied before it is drawn, and what becomes of a cell depends on that cell only
(`Paragraph.drawing_draw`), so nothing that was there before is left.

The numbers have all the width of the greatest one, since a smaller number has no more digits
(`length_toString_le`).
-/

namespace Showcase

/-! ## Lines and their endings -/

namespace Text

/-- The two endings of a line. -/
def ending (withReturn : Bool) : List Char := if withReturn then ['\r', '\n'] else ['\n']

theorem segments_ne_nil (cs : List Char) : segments cs ≠ [] := by
  cases cs with
  | nil => simp [segments]
  | cons c cs =>
      rw [segments, List.foldr_cons]
      split
      next => simp
      next => split <;> simp

theorem segments_append_lineFeed {line : List Char} (oneLine : '\n' ∉ line) (rest : List Char) :
    segments (line ++ '\n' :: rest) = line :: segments rest := by
  induction line with
  | nil => rfl
  | cons c line induction =>
      rw [List.mem_cons, not_or] at oneLine
      obtain ⟨here, later⟩ := oneLine
      have tail := induction later
      unfold segments at tail ⊢
      rw [List.cons_append, List.foldr_cons, tail, if_neg (Ne.symm here)]

theorem lineChars_append_lineFeed {line : List Char} (oneLine : '\n' ∉ line) (rest : List Char) :
    lineChars (line ++ '\n' :: rest) = dropReturn line :: lineChars rest := by
  obtain ⟨segment, more, cut⟩ := List.exists_cons_of_ne_nil (segments_ne_nil rest)
  simp only [lineChars, segments_append_lineFeed oneLine, cut, List.dropLast_cons_cons,
    List.map_cons, List.getLast?_cons_cons]
  split <;> rfl

theorem Printable.notMem_lineFeed {cs : List Char} (printable : Printable cs) : '\n' ∉ cs :=
  fun member => absurd (printable _ member).1 (by decide)

theorem lineChars_append_ending {line : List Char} (printable : Printable line) (withReturn : Bool)
    (rest : List Char) :
    lineChars (line ++ ending withReturn ++ rest) = line :: lineChars rest := by
  have oneLine := printable.notMem_lineFeed
  cases withReturn with
  | true =>
      have returned : '\n' ∉ line ++ ['\r'] := by simp [oneLine]
      have split := lineChars_append_lineFeed returned rest
      have dropped : dropReturn (line ++ ['\r']) = line := by simp [dropReturn]
      rw [dropped] at split
      simpa [ending] using split
  | false =>
      have split := lineChars_append_lineFeed oneLine rest
      have kept : dropReturn line = line := by
        unfold dropReturn
        split
        next last => exact absurd (printable _ (List.mem_of_getLast? last)).1 (by decide)
        next => rfl
      rw [kept] at split
      simpa [ending] using split

/-- A text that is written line by line has these lines, and what follows the last ending is one
more unless it is empty. -/
theorem lineChars_flatMap_ending (ls : List (List Char × Bool)) {rest : List Char}
    (printable : ∀ l ∈ ls, Printable l.1) (restPrintable : Printable rest) :
    lineChars (ls.flatMap (fun l => l.1 ++ ending l.2) ++ rest) =
      ls.map Prod.fst ++ (if rest = [] then [] else [rest]) := by
  induction ls with
  | nil =>
      rw [List.flatMap_nil, List.nil_append, List.map_nil, List.nil_append]
      split
      next empty =>
        subst empty
        rfl
      next some => exact lineChars_of_notMem some restPrintable.notMem_lineFeed
  | cons l ls induction =>
      obtain ⟨here, later⟩ := List.forall_mem_cons.1 printable
      rw [List.flatMap_cons, List.append_assoc, lineChars_append_ending here, induction later]
      rfl

end Text

/-! ## Numbers -/

theorem toList_toString (n : Nat) : (toString n).toList = Nat.toDigits 10 n := by
  rw [Nat.toString_eq_repr, Nat.repr_eq_ofList_toDigits, String.toList_ofList]

theorem printable_toString (n : Nat) : Text.Printable (toString n).toList := by
  intro c member
  rw [toList_toString] at member
  have digit := Nat.isDigit_of_mem_toDigits (by decide) (by decide) member
  simp only [Char.isDigit, Bool.and_eq_true, decide_eq_true_eq] at digit
  have above : 48 ≤ c.toNat := digit.1
  have below : c.toNat ≤ 57 := digit.2
  omega

/-- A smaller number has no more digits. -/
theorem length_toString_le {m n : Nat} (le : m ≤ n) :
    (toString m).length ≤ (toString n).length := by
  have digits (k : Nat) : (toString k).length = (Nat.toDigits 10 k).length := by
    rw [← String.length_toList, toList_toString]
  have some : 0 < (Nat.toDigits 10 n).length := List.length_pos_of_ne_nil Nat.toDigits_ne_nil
  rw [digits, digits, Nat.length_toDigits_le_iff (by decide) some]
  exact Nat.lt_of_le_of_lt le ((Nat.length_toDigits_le_iff (by decide) some).1 (Nat.le_refl _))

/-! ## Rows -/

/-- A row of a paragraph whose lines are cut is its line, cut. -/
theorem Screen.Paragraph.getElem?_rows_of_cut {p : Paragraph} (cut : p.overflow = .cut)
    {columns height i : Nat} (counted : p.scroll + height ≤ 65535) (inColumn : i < height) :
    (p.rows columns height)[i]? =
      p.lines[p.scroll + i]?.map fun l => (l.align.getD p.align, cutLine columns l.glyphs) := by
  have single : p.rowsOf columns = fun l => [(l.align.getD p.align, cutLine columns l.glyphs)] := by
    funext l
    simp only [rowsOf, cut]
  rw [rows, if_neg (Nat.not_lt.2 counted), cut]
  dsimp only
  rw [single, ← List.map_eq_flatMap, List.getElem?_map, List.getElem?_take_of_lt inColumn,
    List.getElem?_drop]

namespace Source

open Screen

/-- The digits of the greatest number, at least one. -/
def numberWidth (text : String) : Nat := (toString (max (Text.lineCount text) 1)).length

theorem getElem?_lines (text : String) (k : Nat) :
    (lines text)[k]? =
      (Text.lineChars text.toList)[k]?.map fun line =>
        numbered (numberWidth text) (k + 1) line := by
  rw [lines, List.getElem?_mapIdx]
  rfl

/-- Each cell inside the panel shows the glyph of its line that begins there, or a blank. -/
theorem symbolAt_draw (f : Frame) (e : Entry) (text : String) {scroll : Nat} {r : Rect}
    (inFrame : r.Inside f.area) (counted : scroll + r.inner.height ≤ 65535) {column i : Nat}
    (inRow : column < r.inner.width) (inColumn : i < r.inner.height) :
    (draw f e text scroll r).symbolAt (r.inner.x + column) (r.inner.y + i) =
      (((lines text)[scroll + i]?.bind fun l =>
        glyphAt? (cutLine r.inner.width l.glyphs) column).map (·.symbol)).getD [' '] := by
  have cleared : (f.clear r).symbolAt (r.inner.x + column) (r.inner.y + i) = [' '] :=
    f.symbolAt_clear (Rect.has_of_has_inner (Rect.has_of_lt inRow inColumn))
  have shown := (paragraph e text scroll).symbolAt_draw (f.clear r) inFrame inRow inColumn
  have inside : (paragraph e text scroll).inside r = r.inner := rfl
  have lines : (paragraph e text scroll).lines[(paragraph e text scroll).scroll + i]? = _ :=
    getElem?_lines text (scroll + i)
  rw [inside, Paragraph.getElem?_rows_of_cut (p := paragraph e text scroll) rfl counted inColumn,
    cleared, lines] at shown
  rw [draw, shown, getElem?_lines]
  cases (Text.lineChars text.toList)[scroll + i]? with
  | none => rfl
  | some line =>
      simp only [Option.map_some, Option.bind_some]
      rw [← Paragraph.placed?_left r.inner.width]
      rfl

/-! ## Printable text -/

/-- What stands before a line: its number, as wide as the greatest one, and a bar. -/
def gutter (text : String) (k : Nat) : List Char :=
  List.leftpad (numberWidth text) ' ' (toString (k + 1)).toList ++ " │ ".toList

/-- A line of a source with what stands before it; there is nothing beyond the last line. -/
def rowChars (text : String) (k : Nat) : List Char :=
  match (Text.lineChars text.toList)[k]? with
  | some line => gutter text k ++ line
  | none => []

theorem length_gutter {text : String} {k : Nat} (there : k < Text.lineCount text) :
    (gutter text k).length = numberWidth text + 3 := by
  have digits : (toString (k + 1)).length ≤ numberWidth text := length_toString_le (by omega)
  rw [gutter, List.length_append, List.length_leftpad, String.length_toList, Nat.max_eq_left digits]
  rfl

theorem isNarrow_gutter (text : String) (k : Nat) : ∀ c ∈ gutter text k, Text.IsNarrow c := by
  have blank : Text.IsNarrow ' ' :=
    Text.Printable.isNarrow (show Text.Printable [' '] by decide) ' ' List.mem_cons_self
  intro c member
  rw [gutter, List.leftpad, List.append_assoc, List.mem_append, List.mem_append] at member
  rcases member with pad | digit | bar
  · rwa [List.eq_of_mem_replicate pad]
  · exact (printable_toString _).isNarrow c digit
  · have : c = ' ' ∨ c = '│' ∨ c = ' ' := by simpa using bar
    rcases this with rfl | rfl | rfl
    · exact blank
    · exact Text.isNarrow_bar
    · exact blank

/-- The glyphs of a line with its number are the characters of the row. -/
theorem glyphs_numbered (text : String) (k : Nat) {line : List Char}
    (printable : Text.Printable line) :
    (numbered (numberWidth text) (k + 1) line).glyphs =
      (gutter text k).map (Glyph.ofChar Palette.lineNumber) ++ line.map (Glyph.ofChar {}) := by
  have number : Span.styled (padded (numberWidth text) (k + 1) ++ " │ ") Palette.lineNumber =
      ⟨gutter text k, Palette.lineNumber⟩ := by
    simp only [Span.styled, gutter, padded, List.leftpad, String.toList_append,
      String.toList_ofList, String.length_toList]
  have left : (Span.mk (gutter text k) Palette.lineNumber).glyphs =
      (gutter text k).map (Glyph.ofChar Palette.lineNumber) :=
    Span.glyphs_of_narrow (isNarrow_gutter text k)
  have right : (Span.mk line {}).glyphs = line.map (Glyph.ofChar {}) :=
    Span.glyphs_of_narrow printable.isNarrow
  rw [numbered, Line.glyphs, number, List.flatMap_cons, List.flatMap_singleton, left, right]

/-- A row of printable text is shown character by character. -/
theorem symbolAt_draw_of_printable (f : Frame) (e : Entry) {text : String}
    (printable : ∀ line ∈ Text.lineChars text.toList, Text.Printable line) {scroll : Nat} {r : Rect}
    (inFrame : r.Inside f.area) (counted : scroll + r.inner.height ≤ 65535) {column i : Nat}
    (inRow : column < r.inner.width) (inColumn : i < r.inner.height) :
    (draw f e text scroll r).symbolAt (r.inner.x + column) (r.inner.y + i) =
      [(rowChars text (scroll + i)).getD column ' '] := by
  rw [symbolAt_draw f e text inFrame counted inRow inColumn, getElem?_lines, rowChars]
  cases there : (Text.lineChars text.toList)[scroll + i]? with
  | none => rfl
  | some line =>
      have inked := glyphs_numbered text (scroll + i) (printable line (List.mem_of_getElem? there))
      have narrow : Narrow (numbered (numberWidth text) (scroll + i + 1) line).glyphs := by
        rw [inked]
        intro g member
        rcases List.mem_append.1 member with number | character
        · exact narrow_map_ofChar _ _ g number
        · exact narrow_map_ofChar _ _ g character
      have symbols : (numbered (numberWidth text) (scroll + i + 1) line).glyphs.map (·.symbol) =
          (gutter text (scroll + i) ++ line).map ([·]) := by
        rw [inked, List.map_append, List.map_map, List.map_map, List.map_append]
        rfl
      rw [Option.map_some, Option.bind_some, narrow.glyphAt?_cutLine inRow, ← List.getElem?_map,
        symbols, List.getElem?_map, List.getD_eq_getElem?_getD]
      dsimp only
      cases (gutter text (scroll + i) ++ line)[column]? with
      | none => rfl
      | some c => rfl

/-- Row by row, the panel of a printable source shows the number of the line, right-aligned to the
digits of the greatest number, a bar and the line itself, as far as there is room, and blanks
elsewhere.  All numbers take the same width.  Of what was drawn before nothing is left.  The lines
are those that the text is written in, with either ending, and a last one without an ending. -/
theorem panel_shows_numbered_lines (f : Frame) (e : Entry) (text : String) (scroll : Nat) (r : Rect)
    (printable : ∀ line ∈ Text.lineChars text.toList, Text.Printable line)
    (inFrame : r.Inside f.area) (wide : 2 ≤ r.width) (high : 2 ≤ r.height)
    (counted : scroll + r.height ≤ 65535) :
    (∀ i < r.height - 2, ∀ column < r.width - 2,
      (draw f e text scroll r).symbolAt (r.x + 1 + column) (r.y + 1 + i) =
        [(rowChars text (scroll + i)).getD column ' ']) ∧
    (∀ k < Text.lineCount text,
      (gutter text k).length = (toString (max (Text.lineCount text) 1)).length + 3) ∧
    (∀ f' : Frame, f'.width = f.width → f'.height = f.height → ∀ x y, r.has x y = true →
      (draw f' e text scroll r).cellAt x y = (draw f e text scroll r).cellAt x y) ∧
    (∀ (ls : List (List Char × Bool)) (rest : List Char), (∀ l ∈ ls, Text.Printable l.1) →
      Text.Printable rest →
      text.toList = ls.flatMap (fun l => l.1 ++ Text.ending l.2) ++ rest →
      Text.lineChars text.toList = ls.map Prod.fst ++ (if rest = [] then [] else [rest])) := by
  have left : r.inner.x = r.x + 1 := by
    simp only [Rect.inner, Rect.right]
    omega
  have upper : r.inner.y = r.y + 1 := by
    simp only [Rect.inner, Rect.bottom]
    omega
  have rows : scroll + r.inner.height ≤ 65535 := by
    simp only [Rect.inner]
    omega
  refine ⟨fun i inColumn column inRow => ?_, fun k there => length_gutter there, ?_, ?_⟩
  · rw [← left, ← upper]
    exact symbolAt_draw_of_printable f e printable inFrame rows inRow inColumn
  · intro f' width height x y within
    have emptied (f : Frame) : (f.clear r).cellAt x y = {} := by
      by_cases inside : x < f.width ∧ y < f.height
      · rw [Frame.clear, f.cellAt_changeIn r _ inside.1 inside.2, if_pos within]
      · exact Frame.cellAt_of_outside _ inside
    refine ((paragraph e text scroll).drawing_draw r).related width height ?_
    rw [emptied f', emptied f]
  · intro ls rest linesPrintable restPrintable written
    rw [written]
    exact Text.lineChars_flatMap_ending ls linesPrintable restPrintable

/-- Two rows before the end of ten lines with both endings, over a frame of dots: the ninth line
with a blank before its number, the tenth one cut, and a row of blanks. -/
theorem end_of_ten_lines_is_shown :
    let text := "a\r\nb\n\nd\r\ne\nf\ng\nh\ni\njkl"
    let f := Frame.filled 12 8 { symbol := ['.'] }
    let r : Rect := ⟨3, 2, 9, 5⟩
    (∀ line ∈ Text.lineChars text.toList, Text.Printable line) ∧ Text.lineCount text = 10 ∧
      ∀ column < 7,
        (draw f ⟨"a.rs", "A", "B", ""⟩ text 8 r).symbolAt (4 + column) 3 =
          [" 9 │ i ".toList.getD column ' '] ∧
        (draw f ⟨"a.rs", "A", "B", ""⟩ text 8 r).symbolAt (4 + column) 4 =
          ["10 │ jk".toList.getD column ' '] ∧
        (draw f ⟨"a.rs", "A", "B", ""⟩ text 8 r).symbolAt (4 + column) 5 = [' '] := by
  intro text f r
  have printable : ∀ line ∈ Text.lineChars text.toList, Text.Printable line := by decide +kernel
  have inFrame : r.Inside f.area := by decide
  obtain ⟨shown, _⟩ := panel_shows_numbered_lines f ⟨"a.rs", "A", "B", ""⟩ text 8 r printable
    inFrame (by decide) (by decide) (by decide)
  have ninth : ∀ column < 7,
      (rowChars text 8).getD column ' ' = " 9 │ i ".toList.getD column ' ' := by decide +kernel
  have tenth : ∀ column < 7,
      (rowChars text 9).getD column ' ' = "10 │ jk".toList.getD column ' ' := by decide +kernel
  have beyond : ∀ column < 7, (rowChars text 10).getD column ' ' = ' ' := by decide +kernel
  refine ⟨printable, by decide +kernel, fun column inRow => ⟨?_, ?_, ?_⟩⟩
  · rw [← ninth column inRow]
    exact shown 0 (by decide) column inRow
  · rw [← tenth column inRow]
    exact shown 1 (by decide) column inRow
  · rw [← beyond column inRow]
    exact shown 2 (by decide) column inRow

end Source

end Showcase
