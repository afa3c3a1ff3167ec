import Showcase.Screen.Paragraph
import Showcase.Proofs.Screen.Wrapping

/-!
# The glyphs of a line

The glyphs of a text are its clusters, so none of its characters is lost (`flatten_clusters`).  A
glyph of at most two columns takes at most as many columns as its characters take bytes: one
character of one byte takes one column.  So a line of such glyphs takes at most as many columns as
its text takes bytes (`glyphsWidth_glyphs_le`).
-/

namespace Showcase

namespace Text

/-! ## Clusters -/

theorem flatten_clustersFrom (ctx : Context) (begun cs : List Char) :
    (clustersFrom ctx begun cs).flatten = begun.reverse ++ cs := by
  induction cs generalizing ctx begun with
  | nil => simp [clustersFrom]
  | cons c cs induction =>
      unfold clustersFrom
      split <;> simp [induction]

/-- The clusters of a text are its characters, in order. -/
theorem flatten_clusters (cs : List Char) : (clusters cs).flatten = cs := by
  cases cs with
  | nil => rfl
  | cons c cs => simp [clusters, flatten_clustersFrom]

theorem ne_nil_of_mem_clustersFrom {ctx : Context} {begun cs symbol : List Char}
    (nonempty : begun ≠ []) (member : symbol ∈ clustersFrom ctx begun cs) : symbol ≠ [] := by
  induction cs generalizing ctx begun with
  | nil =>
      obtain rfl := List.mem_singleton.1 member
      simpa using nonempty
  | cons c cs induction =>
      unfold clustersFrom at member
      split at member
      next joined => exact induction (List.cons_ne_nil c begun) member
      next apart =>
        rcases List.mem_cons.1 member with rfl | later
        · simpa using nonempty
        · exact induction (List.cons_ne_nil c []) later

theorem ne_nil_of_mem_clusters {cs symbol : List Char} (member : symbol ∈ clusters cs) :
    symbol ≠ [] := by
  cases cs with
  | nil => cases member
  | cons c cs => exact ne_nil_of_mem_clustersFrom (List.cons_ne_nil c []) member

/-! ## Lines -/

theorem segments_of_notMem {cs : List Char} (oneLine : '\n' ∉ cs) : segments cs = [cs] := by
  induction cs with
  | nil => rfl
  | cons c cs induction =>
      rw [List.mem_cons, not_or] at oneLine
      obtain ⟨here, later⟩ := oneLine
      have rest := induction later
      unfold segments at rest ⊢
      rw [List.foldr_cons, rest, if_neg (Ne.symm here)]

/-- A text without line feeds is one line. -/
theorem lineChars_of_notMem {cs : List Char} (nonempty : cs ≠ []) (oneLine : '\n' ∉ cs) :
    lineChars cs = [cs] := by
  obtain ⟨c, rest, rfl⟩ := List.exists_cons_of_ne_nil nonempty
  rw [lineChars, segments_of_notMem oneLine]
  rfl

/-! ## Bytes -/

/-- The bytes of a list of characters. -/
def bytes (cs : List Char) : Nat := (String.ofList cs).utf8ByteSize

theorem bytes_toList (s : String) : bytes s.toList = s.utf8ByteSize := by
  rw [bytes, String.ofList_toList]

@[simp] theorem bytes_nil : bytes [] = 0 := rfl

@[simp] theorem bytes_cons (c : Char) (cs : List Char) :
    bytes (c :: cs) = c.utf8Size + bytes cs := by
  rw [bytes, String.ofList_cons, String.utf8ByteSize_append, String.utf8ByteSize_singleton, bytes]

@[simp] theorem bytes_append (cs ds : List Char) : bytes (cs ++ ds) = bytes cs + bytes ds := by
  induction cs with
  | nil => simp
  | cons c cs induction => simp [induction, Nat.add_assoc]

theorem bytes_pos {cs : List Char} (nonempty : cs ≠ []) : 0 < bytes cs := by
  obtain ⟨c, rest, rfl⟩ := List.exists_cons_of_ne_nil nonempty
  have := c.utf8Size_pos
  rw [bytes_cons]
  omega

/-- What takes one byte is one character of the basic block, which takes one column. -/
theorem columns_le_bytes {symbol : List Char} (nonempty : symbol ≠ []) (drawn : symbol ≠ ['\n'])
    (narrow : columns symbol ≤ 2) : columns symbol ≤ bytes symbol := by
  obtain ⟨c, rest, rfl⟩ := List.exists_cons_of_ne_nil nonempty
  have := c.utf8Size_pos
  rw [bytes_cons]
  by_cases only : rest = []
  · subst only
    by_cases one : c.utf8Size = 1
    · have basic : c.toNat ≤ 0xA0 :=
        Nat.le_trans (Char.utf8Size_eq_one_iff.1 one) (by decide)
      have single : columns [c] = 1 := columns_of_basic fun d member => by
        obtain rfl := List.mem_singleton.1 member
        exact ⟨basic, fun lineFeed => drawn (congrArg (fun e => [e]) lineFeed)⟩
      omega
    · omega
  · have := bytes_pos only
    omega

end Text

namespace Screen

/-! ## Glyphs -/

/-- A line of glyphs of at most two columns has at least as many bytes as columns. -/
theorem glyphsWidth_glyphs_le (s : Span) (sized : Sized s.glyphs) :
    glyphsWidth s.glyphs ≤ Text.bytes s.text := by
  have pieces : ∀ symbols : List (List Char), (∀ symbol ∈ symbols, symbol ∈ Text.clusters s.text) →
      glyphsWidth ((symbols.filter (· != ['\n'])).map fun symbol =>
        ⟨symbol, Text.columns symbol, s.style⟩) ≤ Text.bytes symbols.flatten := by
    intro symbols cut
    induction symbols with
    | nil => exact Nat.le_refl 0
    | cons symbol symbols induction =>
        obtain ⟨member, others⟩ := List.forall_mem_cons.1 cut
        have rest := induction others
        rw [List.flatten_cons, Text.bytes_append]
        by_cases drawn : symbol = ['\n']
        · rw [List.filter_cons_of_neg (by simp [drawn])]
          omega
        · rw [List.filter_cons_of_pos (by simp [drawn]), List.map_cons, glyphsWidth_cons]
          have isGlyph : ⟨symbol, Text.columns symbol, s.style⟩ ∈ s.glyphs :=
            List.mem_map_of_mem (List.mem_filter.2 ⟨member, by simp [drawn]⟩)
          have narrow : Text.columns symbol = 1 ∨ Text.columns symbol = 2 := sized _ isGlyph
          have := Text.columns_le_bytes (Text.ne_nil_of_mem_clusters member) drawn (by omega)
          dsimp only
          omega
  have whole := pieces (Text.clusters s.text) fun _ member => member
  rwa [Text.flatten_clusters] at whole

theorem glyphs_ne_nil {s : Span} (nonempty : s.text ≠ []) (oneLine : '\n' ∉ s.text) :
    s.glyphs ≠ [] := by
  have cut := Text.flatten_clusters s.text
  cases clusters : Text.clusters s.text with
  | nil =>
      rw [clusters, List.flatten_nil] at cut
      exact absurd cut.symm nonempty
  | cons symbol symbols =>
      have drawn : symbol ≠ ['\n'] := by
        rintro rfl
        rw [clusters] at cut
        exact oneLine (cut ▸ List.mem_cons_self)
      simp [Span.glyphs, clusters, drawn]

/-- A text of one line is broken as that line. -/
theorem Paragraph.flatMap_rowsOf_linesOf (p : Paragraph) {trim : Bool}
    (wrapped : p.overflow = .wrap trim) {s : String} (oneLine : '\n' ∉ s.toList) (columns : Nat) :
    (linesOf s).flatMap (p.rowsOf columns) =
      (wrapLine columns trim (Span.plain s).glyphs).map fun row => (p.align, row) := by
  unfold linesOf
  split
  next empty =>
    obtain rfl : s = "" := by simpa using empty
    simp [rowsOf, wrapped, Line.glyphs]
    rfl
  next some =>
    have nonempty : s.toList ≠ [] := by simpa using some
    rw [Text.lineChars_of_notMem nonempty oneLine]
    simp [rowsOf, wrapped, Line.glyphs, Span.plain]

end Screen

end Showcase
