import Showcase.App.Overlays
import Showcase.Proofs.Screen.Drawing
import Showcase.Proofs.Screen.Glyphs

/-!
# How much of a notice is shown

The box of a notice has as many rows inside as the bytes of its message would fill.  The message is
broken at blanks, though, and then its rows are not full, so that it may need more rows than the box
has.  What the box shows is exact: each cell inside shows the glyph of the broken message that
begins there, and the rows that the box does not have are not shown.

The whole message is shown exactly when the bytes reach into the last row that it needs, counted in
full rows.  At least half of the rows are always shown, since two rows one below the other are
together as wide as one (`Notice.length_rowsIn_le`).
-/

namespace Showcase.Notice

open Screen

/-! ## The message in rows -/

/-- A message of printable characters with single spaces between them. -/
structure IsProse (message : String) : Prop where
  /-- It is one line. -/
  oneLine : '\n' ∉ message.toList
  /-- Its glyphs are words with single blanks between them. -/
  spaced : Spaced (Span.plain message).glyphs

instance (message : String) : Decidable (IsProse message) :=
  decidable_of_iff ('\n' ∉ message.toList ∧ Spaced (Span.plain message).glyphs)
    ⟨fun ⟨oneLine, spaced⟩ => ⟨oneLine, spaced⟩, fun prose => ⟨prose.oneLine, prose.spaced⟩⟩

/-- The rows of a message in a box with so many columns inside. -/
def rowsIn (columns : Nat) (message : String) : List (List Glyph) :=
  wrapLine columns true (Span.plain message).glyphs

theorem le_divUp_iff {k n d : Nat} (pos : 0 < d) : k + 1 ≤ divUp n d ↔ k * d < n := by
  rw [divUp, Nat.le_div_iff_mul_le pos, Nat.succ_mul]
  omega

/-- A message has at most twice the rows that its bytes would fill. -/
theorem length_rowsIn_le {columns : Nat} (three : 3 ≤ columns) {message : String}
    (prose : IsProse message) (nonempty : message ≠ "") :
    (rowsIn columns message).length ≤ 2 * divUp message.utf8ByteSize columns := by
  have drawn : (Span.plain message).glyphs ≠ [] :=
    glyphs_ne_nil (by simpa [Span.plain] using nonempty) prose.oneLine
  have filled := lt_width_of_wrapLine three prose.spaced drawn
  have bytes := glyphsWidth_glyphs_le (Span.plain message) prose.spaced.sized
  rw [Span.plain, Text.bytes_toList] at bytes
  have reached := (le_divUp_iff (by omega)).2 (Nat.lt_of_lt_of_le filled bytes)
  rw [rowsIn]
  omega

/-! ## The box -/

section Area

variable (r : Rect) (message : String)

theorem area_inside : (area r message).Inside r := by
  simp only [area, Rect.Inside, Rect.right, Rect.bottom]
  omega

theorem width_inner_area : (area r message).inner.width = min r.width 60 - 2 := rfl

/-- The box has as many rows as the bytes fill, as far as there is room. -/
theorem height_inner_area {r : Rect} (wide : 20 ≤ r.width) (bounded : r.height ≤ 65535) :
    (area r message).inner.height =
      min (divUp message.utf8ByteSize (area r message).inner.width) (r.height - 2) := by
  simp only [area, Rect.inner]
  rw [Nat.max_eq_left (by omega)]
  omega

end Area

theorem inside_paragraph (n : Notice) (r : Rect) : n.paragraph.inside r = r.inner := rfl

/-- The rows that a box of a size shows are the first ones. -/
theorem rows_paragraph (n : Notice) (oneLine : '\n' ∉ n.message.toList) {columns height : Nat}
    (bounded : height ≤ 65535) :
    n.paragraph.rows columns height =
      ((rowsIn columns n.message).take height).map fun row => (.left, row) := by
  have lines := n.paragraph.flatMap_rowsOf_linesOf rfl oneLine columns
  have counted : ¬ 65535 < n.paragraph.scroll + height := by
    rw [show n.paragraph.scroll = 0 from rfl]
    omega
  rw [Paragraph.rows, if_neg counted, List.map_take]
  exact congrArg (List.take height) lines

/-- Each cell inside the box shows the glyph that begins there, or a blank. -/
theorem symbolAt_draw (n : Notice) (f : Frame) {r : Rect} (inFrame : r.Inside f.area)
    (oneLine : '\n' ∉ n.message.toList) {column i : Nat}
    (inRow : column < (area r n.message).inner.width)
    (inColumn : i < (area r n.message).inner.height) :
    (n.draw f r).symbolAt ((area r n.message).inner.x + column)
        ((area r n.message).inner.y + i) =
      (((rowsIn (area r n.message).inner.width n.message)[i]?.bind (glyphAt? · column)).map
        (·.symbol)).getD [' '] := by
  have inside : (area r n.message).Inside (f.clear (area r n.message)).area := by
    obtain ⟨left, right, top, bottom⟩ := area_inside r n.message
    obtain ⟨left', right', top', bottom'⟩ := inFrame
    exact ⟨Nat.le_trans left' left, Nat.le_trans right right', Nat.le_trans top' top,
      Nat.le_trans bottom bottom'⟩
  have counted : (area r n.message).inner.height ≤ 65535 := by
    simp only [area, Rect.inner]
    omega
  have cleared : (f.clear (area r n.message)).symbolAt ((area r n.message).inner.x + column)
      ((area r n.message).inner.y + i) = [' '] :=
    f.symbolAt_clear (Rect.has_of_has_inner (Rect.has_of_lt inRow inColumn))
  have shown := n.paragraph.symbolAt_draw (f.clear (area r n.message)) inside inRow inColumn
  rw [inside_paragraph, rows_paragraph n oneLine counted, cleared, List.getElem?_map,
    List.getElem?_take_of_lt inColumn] at shown
  rw [draw, shown]
  cases (rowsIn (area r n.message).inner.width n.message)[i]? with
  | none => rfl
  | some row => simp only [Option.map_some, Option.bind_some, Paragraph.placed?_left]

/-- The words of a message are all in its rows, and each row for which the box has room is shown
glyph by glyph, with blanks elsewhere.  The box has room for all rows exactly when the bytes reach
into the last one, and for half of them in any case.  The area may have at most 65534 rows: a box is
placed by its height and one more, which is a number of 16 bits. -/
theorem notice_shows_the_rows_its_bytes_fill (n : Notice) (f : Frame) (r : Rect)
    (inFrame : r.Inside f.area) (bounded : r.height ≤ 65534) (wide : 20 ≤ r.width)
    (prose : IsProse n.message)
    (tall : (rowsIn (min r.width 60 - 2) n.message).length + 3 ≤ r.height) :
    let inner := (area r n.message).inner
    let rows := rowsIn inner.width n.message
    inked rows.flatten = inked (Span.plain n.message).glyphs ∧
      (∀ i before g after, rows[i]? = some (before ++ g :: after) → i < inner.height →
        glyphsWidth before < inner.width ∧
          (n.draw f r).symbolAt (inner.x + glyphsWidth before) (inner.y + i) = g.symbol) ∧
      (∀ i column, i < inner.height → column < inner.width →
        (n.draw f r).symbolAt (inner.x + column) (inner.y + i) =
          ((rows[i]?.bind (glyphAt? · column)).map (·.symbol)).getD [' ']) ∧
      (rows.length ≤ inner.height ↔ (rows.length - 1) * inner.width < n.message.utf8ByteSize) ∧
      (n.message ≠ "" → rows.length ≤ 2 * inner.height) := by
  intro inner rows
  have three : 3 ≤ inner.width := by
    rw [width_inner_area]
    omega
  have wrapped : Wrapped inner.width _ rows := wrapped_wrapLine three prose.spaced
  have cells : ∀ i column, i < inner.height → column < inner.width →
      (n.draw f r).symbolAt (inner.x + column) (inner.y + i) =
        ((rows[i]?.bind (glyphAt? · column)).map (·.symbol)).getD [' '] :=
    fun i column inColumn inRow => n.symbolAt_draw f inFrame prose.oneLine inRow inColumn
  have height : inner.height = min (divUp n.message.utf8ByteSize inner.width) (r.height - 2) :=
    height_inner_area n.message wide (Nat.le_succ_of_le bounded)
  have room : rows.length + 3 ≤ r.height := tall
  refine ⟨wrapped.trims.inked, ?_, cells, ?_, ?_⟩
  · intro i before g after found inColumn
    have member := List.mem_of_getElem? found
    have begins := (wrapped.begins _ member).lt_of_append
    have sized : g.width = 1 ∨ g.width = 2 := by
      refine prose.spaced.sized g (wrapped.trims.sublist.mem ?_)
      exact (List.sublist_flatten_of_mem member).mem (by simp)
    refine ⟨begins, ?_⟩
    rw [cells i _ inColumn begins, found, Option.bind_some, glyphAt?_append (by omega)]
    rfl
  · obtain ⟨k, counted⟩ : ∃ k, rows.length = k + 1 :=
      Nat.exists_eq_succ_of_ne_zero (mt List.length_eq_zero_iff.1 wrapped.nonempty)
    have reached : k + 1 ≤ divUp n.message.utf8ByteSize inner.width ↔ _ := le_divUp_iff (by omega)
    rw [height, counted, Nat.succ_sub_one, ← reached]
    omega
  · intro nonempty
    have twice : rows.length ≤ _ := length_rowsIn_le three prose nonempty
    rw [height]
    omega

theorem wide_glyph_in_the_last_column_is_shown :
    let n : Notice := ⟨.error, "aaaaaaaaaaaaaaaa 数 b", 0, none⟩
    let r : Rect := ⟨5, 1, 20, 7⟩
    IsProse n.message ∧ (rowsIn 18 n.message).length = 2 ∧
      (area r n.message).inner = ⟨6, 4, 18, 2⟩ ∧
      (n.draw (Frame.blank 30 8) r).symbolAt 23 4 = ['数'] := by
  intro n r
  have prose : IsProse n.message := by decide +kernel
  have two : (rowsIn 18 n.message).length = 2 := by decide +kernel
  have inner : (area r n.message).inner = ⟨6, 4, 18, 2⟩ := by decide +kernel
  have inFrame : r.Inside (Frame.blank 30 8).area := by decide
  have tall : (rowsIn (min r.width 60 - 2) n.message).length + 3 ≤ r.height := by
    decide +kernel
  have shown := notice_shows_the_rows_its_bytes_fill n (Frame.blank 30 8) r inFrame (by decide)
    (by decide) prose tall
  rw [inner] at shown
  have glyph : ((rowsIn 18 n.message)[0]?.bind (glyphAt? · 17)).map (·.symbol) = some ['数'] := by
    decide +kernel
  have cell := shown.2.2.1 0 17 (by decide) (by decide)
  dsimp only at cell
  rw [glyph] at cell
  exact ⟨prose, two, inner, cell⟩

theorem last_of_three_words_is_cut :
    let n : Notice := ⟨.error, "aaaaaaaaaa bbbbbbbbbb cccccccccc", 0, none⟩
    let r : Rect := ⟨0, 0, 20, 10⟩
    let inner := (area r n.message).inner
    IsProse n.message ∧ (rowsIn inner.width n.message).length + 3 ≤ r.height ∧
      inner.height < (rowsIn inner.width n.message).length ∧
      ∀ i < inner.height, ∀ column < inner.width,
        (n.draw (Frame.blank 20 10) r).symbolAt (inner.x + column) (inner.y + i) ≠ ['c'] := by
  intro n r inner
  have prose : IsProse n.message := by decide +kernel
  have inFrame : r.Inside (Frame.blank 20 10).area := by decide
  refine ⟨prose, by decide +kernel, by decide +kernel, ?_⟩
  intro i inColumn column inRow
  rw [n.symbolAt_draw (Frame.blank 20 10) inFrame prose.oneLine inRow inColumn]
  have others : ∀ row ∈ (rowsIn inner.width n.message).take inner.height,
      ∀ g ∈ row, g.symbol ≠ ['c'] := by
    decide +kernel
  rw [← List.getElem?_take_of_lt inColumn]
  cases found : ((rowsIn inner.width n.message).take inner.height)[i]? with
  | none => simp
  | some row =>
      rw [Option.bind_some]
      cases begun : glyphAt? row column with
      | none => simp
      | some g => exact others row (List.mem_of_getElem? found) g (mem_of_glyphAt? begun)

end Showcase.Notice
