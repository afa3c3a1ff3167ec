import Mathlib.Data.List.Chain
import Mathlib.Data.List.Induction
import Showcase.Screen.Wrap

/-!
# What breaking a line keeps

A line of words with single blanks between them is broken glyph by glyph.  `Wrapping.Step` lists
what one glyph can do to the state, and three invariants follow from it, each by one case per
constructor.

* Nothing but blanks is lost (`Wrapping.Step.trims`).
* Every glyph begins within its row (`Wrapping.Step.fits`).  A wide glyph may begin in the last
  column, so that a row can be one column too wide.
* Two rows one below the other are together at least as wide as a row (`Wrapping.Step.filled`): the
  word that begins the second did not fit into the first.

`wrapped_wrapLine` says what this makes of the rows.  They are at most twice as many as the columns
of the line would fill (`lt_width_of_wrapLine`).
-/

namespace Showcase.Screen

/-! ## Widths -/

@[simp] theorem glyphsWidth_nil : glyphsWidth [] = 0 := rfl

@[simp] theorem glyphsWidth_cons (g : Glyph) (gs : List Glyph) :
    glyphsWidth (g :: gs) = g.width + glyphsWidth gs := rfl

@[simp] theorem glyphsWidth_append (gs hs : List Glyph) :
    glyphsWidth (gs ++ hs) = glyphsWidth gs + glyphsWidth hs := by
  induction gs with
  | nil => simp
  | cons g gs induction => simp [induction, Nat.add_assoc]

theorem glyphsWidth_le_of_sublist {gs hs : List Glyph} (part : gs.Sublist hs) :
    glyphsWidth gs ≤ glyphsWidth hs := by
  induction part with
  | slnil => exact Nat.le_refl 0
  | cons g _ induction =>
      rw [glyphsWidth_cons]
      omega
  | cons_cons g _ induction =>
      rw [glyphsWidth_cons, glyphsWidth_cons]
      omega

/-- Every glyph takes one column or two. -/
def Sized (gs : List Glyph) : Prop := ∀ g ∈ gs, g.width = 1 ∨ g.width = 2

instance (gs : List Glyph) : Decidable (Sized gs) :=
  inferInstanceAs (Decidable (∀ g ∈ gs, g.width = 1 ∨ g.width = 2))

theorem Sized.of_sublist {gs hs : List Glyph} (sized : Sized hs) (part : gs.Sublist hs) :
    Sized gs :=
  fun g member => sized g (part.mem member)

theorem Sized.pos {gs : List Glyph} (sized : Sized gs) (nonempty : gs ≠ []) :
    0 < glyphsWidth gs := by
  obtain ⟨g, rest, rfl⟩ := List.exists_cons_of_ne_nil nonempty
  have := sized g List.mem_cons_self
  rw [glyphsWidth_cons]
  omega

/-- Words with single blanks between them. -/
structure Spaced (gs : List Glyph) : Prop where
  /-- Every glyph takes one column or two. -/
  sized : Sized gs
  /-- A blank takes one. -/
  narrow : ∀ g ∈ gs, g.isBlank = true → g.width = 1
  /-- No two blanks stand side by side. -/
  apart : gs.IsChain fun g h => g.isBlank = true → h.isBlank = false

instance (gs : List Glyph) : Decidable (Spaced gs) :=
  decidable_of_iff (Sized gs ∧ (∀ g ∈ gs, g.isBlank = true → g.width = 1) ∧
      gs.IsChain fun g h => g.isBlank = true → h.isBlank = false)
    ⟨fun ⟨sized, narrow, apart⟩ => ⟨sized, narrow, apart⟩,
      fun spaced => ⟨spaced.sized, spaced.narrow, spaced.apart⟩⟩

theorem Spaced.of_concat {gs : List Glyph} {g : Glyph} (spaced : Spaced (gs ++ [g])) :
    Spaced gs where
  sized := spaced.sized.of_sublist (List.sublist_append_left _ _)
  narrow h member := spaced.narrow h (List.mem_append_left _ member)
  apart := (List.isChain_append.1 spaced.apart).1

/-- The glyphs that are not blank. -/
def inked (gs : List Glyph) : List Glyph := gs.filter fun g => !g.isBlank

@[simp] theorem inked_append (gs hs : List Glyph) : inked (gs ++ hs) = inked gs ++ inked hs :=
  List.filter_append gs hs

theorem inked_singleton_of_isBlank {g : Glyph} (blank : g.isBlank = true) :
    inked [g] = [] := by
  simp [inked, blank]

/-- A list of glyphs is another one without some of its blanks. -/
structure Trims (gs hs : List Glyph) : Prop where
  /-- Its glyphs are among those of the other one, in order. -/
  sublist : gs.Sublist hs
  /-- Only blanks are left out. -/
  inked : inked gs = inked hs

namespace Trims

theorem refl (gs : List Glyph) : Trims gs gs := ⟨.refl gs, rfl⟩

theorem trans {as bs cs : List Glyph} (first : Trims as bs) (second : Trims bs cs) : Trims as cs :=
  ⟨first.sublist.trans second.sublist, first.inked.trans second.inked⟩

theorem append {as bs cs ds : List Glyph} (left : Trims as bs) (right : Trims cs ds) :
    Trims (as ++ cs) (bs ++ ds) :=
  ⟨left.sublist.append right.sublist, by
    rw [inked_append, inked_append, left.inked, right.inked]⟩

theorem nil_singleton {g : Glyph} (blank : g.isBlank = true) : Trims [] [g] :=
  ⟨List.nil_sublist _, (inked_singleton_of_isBlank blank).symm⟩

end Trims

/-- The last glyph of a row, and so every glyph of it, begins before a column. -/
def BeginsBefore (columns : Nat) (row : List Glyph) : Prop := glyphsWidth row.dropLast < columns

theorem dropLast_sublist_dropLast {gs hs : List Glyph} (part : gs.Sublist hs) :
    gs.dropLast.Sublist hs.dropLast := by
  have tails := part.reverse.tail.reverse
  rwa [List.tail_reverse, List.tail_reverse, List.reverse_reverse, List.reverse_reverse] at tails

namespace BeginsBefore

variable {columns : Nat} {row : List Glyph}

theorem of_sublist {part : List Glyph} (begins : BeginsBefore columns row)
    (sublist : part.Sublist row) : BeginsBefore columns part :=
  Nat.lt_of_le_of_lt (glyphsWidth_le_of_sublist (dropLast_sublist_dropLast sublist)) begins

theorem concat {g : Glyph} (room : glyphsWidth row < columns) :
    BeginsBefore columns (row ++ [g]) := by
  rwa [BeginsBefore, List.dropLast_concat]

/-- A glyph that begins in the last column can reach one column over it. -/
theorem width_le (begins : BeginsBefore columns row) (sized : Sized row) :
    glyphsWidth row ≤ columns + 1 := by
  rcases List.eq_nil_or_concat row with rfl | ⟨front, g, rfl⟩
  · exact Nat.zero_le _
  · have wide := sized g (by simp)
    rw [List.concat_eq_append] at begins ⊢
    rw [BeginsBefore, List.dropLast_concat] at begins
    simp only [glyphsWidth_append, glyphsWidth_cons, glyphsWidth_nil]
    omega

theorem lt_of_append {before after : List Glyph} {g : Glyph}
    (begins : BeginsBefore columns (before ++ g :: after)) : glyphsWidth before < columns := by
  have rest : (before ++ g :: after).dropLast = before ++ (g :: after).dropLast :=
    List.dropLast_append_of_ne_nil (List.cons_ne_nil g after)
  rw [BeginsBefore, rest, glyphsWidth_append] at begins
  omega

end BeginsBefore

/-! ## What one glyph does -/

namespace Wrapping

variable {columns : Nat} {w : Wrapping} {g : Glyph}

/-- What is not in a complete row yet. -/
def content (w : Wrapping) : List Glyph := w.row ++ w.blanks ++ w.word

/-- The row once the word is put into it. -/
def line (w : Wrapping) : List Glyph := (w.settle true).row

theorem line_of_row_eq_nil (empty : w.row = []) : w.line = w.word := by
  simp [line, settle, empty]

theorem line_of_row_ne_nil (begun : w.row ≠ []) : w.line = w.content := by
  simp [line, settle, content, begun]

/-- What one glyph can do, when the line is trimmed. -/
inductive Step (columns : Nat) (w : Wrapping) (g : Glyph) : Wrapping → Prop where
  /-- The word goes on. -/
  | grow (ink : g.isBlank = false) (room : glyphsWidth w.content < columns) :
      Step columns w g { w with word := w.word ++ [g], inWord := true }
  /-- The word goes on in a row of its own. -/
  | carry (ink : g.isBlank = false) (begun : w.row ≠ [])
      (full : columns ≤ glyphsWidth w.content) :
      Step columns w g ⟨w.row :: w.done, [], [], w.word ++ [g], true⟩
  /-- The first word goes on below an empty row: with the blank before it, it did not fit. -/
  | lower (ink : g.isBlank = false) (empty : w.row = []) (first : w.done = [])
      (full : glyphsWidth w.word + 1 = columns) :
      Step columns w g ⟨[[]], [], [], w.word ++ [g], true⟩
  /-- The word is broken. -/
  | split (ink : g.isBlank = false) (empty : w.row = []) (full : columns ≤ glyphsWidth w.word) :
      Step columns w g ⟨w.word :: w.done, [], [], [g], true⟩
  /-- The word is going to be broken before a wide glyph. -/
  | squeeze (ink : g.isBlank = false) (empty : w.row = [])
      (full : glyphsWidth w.word + 1 = columns) :
      Step columns w g ⟨w.done, w.word, [], [g], true⟩
  /-- The row is complete, and the blank after it is left out. -/
  | close (blank : g.isBlank = true) (full : columns ≤ glyphsWidth w.line) :
      Step columns w g ⟨w.line :: w.done, [], [], [], true⟩
  /-- The word is in the row, and a blank after it. -/
  | space (blank : g.isBlank = true) (room : glyphsWidth w.line < columns)
      (begun : w.line = [] → w.done = []) :
      Step columns w g ⟨w.done, w.line, [g], [], false⟩

/-- Every glyph begins within the row. -/
structure Fits (columns : Nat) (w : Wrapping) : Prop where
  /-- There is room in the row. -/
  short : glyphsWidth w.row < columns
  /-- What comes after it begins within the row, too. -/
  begins : BeginsBefore columns w.content
  /-- So does what stands in the complete rows. -/
  done : ∀ row ∈ w.done, BeginsBefore columns row
  /-- There is at most one blank. -/
  single : w.blanks = [] ∨ ∃ b, w.blanks = [b] ∧ b.isBlank = true ∧ b.width = 1
  /-- Only the first row can begin with a blank. -/
  start : w.row = [] → w.blanks ≠ [] → w.done = []
  /-- A word follows the row without a blank only if it was broken there. -/
  tight : w.row ≠ [] → w.blanks = [] → w.word ≠ [] ∧ columns ≤ glyphsWidth w.row + 1

theorem Fits.width_blanks_le (fits : w.Fits columns) : glyphsWidth w.blanks ≤ 1 := by
  rcases fits.single with none | ⟨b, one, _, narrow⟩
  · simp [none]
  · simp [one, narrow]

/-- Where there is room in a row, the blank after it is left out. -/
theorem Fits.dropBlanks_eq_nil (fits : w.Fits columns) {room : Nat} (enough : 1 ≤ room) :
    dropBlanks room w.blanks = [] := by
  rcases fits.single with none | ⟨b, one, _, narrow⟩
  · rw [none, dropBlanks]
  · rw [one, dropBlanks, if_pos (by omega), dropBlanks]

/-- The state knows whether the last glyph belongs to a word. -/
structure Follows (gs : List Glyph) (w : Wrapping) : Prop where
  /-- At the start there is nothing. -/
  fresh : gs = [] → w = {}
  /-- After a glyph of a word there is a word. -/
  spoken : ∀ g ∈ gs.getLast?, g.isBlank = false → w.word ≠ [] ∧ w.inWord = true

/-- A glyph of a word while there is nothing in the row.  The word is broken where it would be too
long for a row of its own; the blank before it counts only in the test after that. -/
theorem step_add_of_row_eq_nil (three : 3 ≤ columns) (fits : w.Fits columns)
    (ink : g.isBlank = false) (sized : g.width = 1 ∨ g.width = 2) (empty : w.row = []) :
    w.Step columns g (w.add columns true g) := by
  have one := fits.width_blanks_le
  have narrow : ¬ columns < g.width := by omega
  have notSpaced : ¬ columns < glyphsWidth w.blanks + g.width := by omega
  have positive : 0 < g.width := by omega
  by_cases tooWide : columns < glyphsWidth w.word + g.width
  · by_cases full : columns ≤ glyphsWidth w.word
    · have step := Step.split ink empty full
      simpa [add, settles, settle, breaks, breakRow, push, ink, empty, tooWide, full, narrow,
        notSpaced, dropBlanks] using step
    · have step := Step.squeeze ink empty (by omega : glyphsWidth w.word + 1 = columns)
      simpa [add, settles, settle, breaks, breakRow, push, ink, empty, tooWide, full, narrow,
        notSpaced, dropBlanks] using step
  · by_cases full : columns ≤ glyphsWidth w.blanks + glyphsWidth w.word
    · have spaced : w.blanks ≠ [] := by
        intro none
        simp only [none, glyphsWidth_nil] at full
        omega
      have first := fits.start empty spaced
      have step := Step.lower ink empty first (by omega : glyphsWidth w.word + 1 = columns)
      have dropped := fits.dropBlanks_eq_nil (by omega : 1 ≤ columns)
      simpa [add, settles, breaks, breakRow, push, ink, empty, tooWide, full, narrow, notSpaced,
        positive, dropped, first] using step
    · have room : glyphsWidth w.content < columns := by
        rw [content, empty, List.nil_append, glyphsWidth_append]
        omega
      have step := Step.grow ink room
      have nonzero : columns ≠ 0 := by omega
      simpa [add, settles, breaks, push, ink, empty, tooWide, full, narrow, notSpaced, positive,
        nonzero] using step

/-- A glyph of a word after something in the row. -/
theorem step_add_of_row_ne_nil (three : 3 ≤ columns) (fits : w.Fits columns)
    (ink : g.isBlank = false) (sized : g.width = 1 ∨ g.width = 2) (begun : w.row ≠ []) :
    w.Step columns g (w.add columns true g) := by
  have short := fits.short
  have narrow : ¬ columns < g.width := by omega
  have positive : 0 < g.width := by omega
  by_cases full : columns ≤ glyphsWidth w.content
  · have step := Step.carry ink begun full
    have dropped := fits.dropBlanks_eq_nil (by omega : 1 ≤ columns - glyphsWidth w.row)
    simp only [content, glyphsWidth_append] at full
    simpa [add, settles, breaks, breakRow, push, ink, begun, full, narrow, positive, dropped]
      using step
  · have step := Step.grow ink (Nat.not_le.1 full)
    simp only [content, glyphsWidth_append] at full
    simpa [add, settles, breaks, push, ink, begun, full, narrow, positive, Nat.not_le.2 short]
      using step

/-- A blank ends the word before it, which fills the row or leaves room for the blank. -/
theorem step_add_of_blank (three : 3 ≤ columns) {gs : List Glyph} (follows : Follows gs w)
    (apart : ∀ h ∈ gs.getLast?, h.isBlank = false) (blank : g.isBlank = true)
    (narrow : g.width = 1) : w.Step columns g (w.add columns true g) := by
  have one : ¬ columns < 1 := by omega
  rcases List.eq_nil_or_concat gs with rfl | ⟨front, h, rfl⟩
  · obtain rfl := follows.fresh rfl
    have room : glyphsWidth (line {}) < columns := Nat.lt_of_lt_of_le (by decide) three
    have step := Step.space blank room fun _ => rfl
    have nonzero : columns ≠ 0 := by omega
    simpa [add, settles, line, settle, breaks, push, blank, narrow, nonzero, one] using step
  · obtain ⟨begun, inWord⟩ := follows.spoken h (by simp) (apart h (by simp))
    have settled : w.add columns true g =
        if columns ≤ glyphsWidth w.line then ⟨w.line :: w.done, [], [], [], true⟩
        else ⟨w.done, w.line, [g], [], false⟩ := by
      simp [add, settles, settle, line, breaks, breakRow, push, blank, narrow, inWord, one,
        dropBlanks]
    rw [settled]
    split
    next full => exact .close blank full
    next room =>
      refine .space blank (Nat.not_le.1 room) fun empty => absurd empty ?_
      simp [line, settle, begun]

/-! ## What stays true -/

theorem content_of_word (w : Wrapping) (g : Glyph) (inWord : Bool) :
    content { w with word := w.word ++ [g], inWord } = w.content ++ [g] := by
  simp [content]

theorem Fits.trims_blanks (fits : w.Fits columns) : Trims [] w.blanks := by
  rcases fits.single with none | ⟨b, one, blank, _⟩
  · rw [none]
    exact .refl []
  · rw [one]
    exact .nil_singleton blank

/-- The blanks before the word can be left out. -/
theorem Fits.trims_content (fits : w.Fits columns) : Trims (w.row ++ w.word) w.content := by
  have := ((Trims.refl w.row).append fits.trims_blanks).append (.refl w.word)
  rwa [List.append_nil] at this

theorem Fits.trims_line (fits : w.Fits columns) : Trims w.line w.content := by
  by_cases empty : w.row = []
  · have := fits.trims_content
    rwa [empty, List.nil_append, ← line_of_row_eq_nil empty] at this
  · rw [line_of_row_ne_nil empty]
    exact .refl _

/-- The step keeps every glyph within its row. -/
theorem Step.fits {w' : Wrapping} (step : w.Step columns g w') (three : 3 ≤ columns)
    (fits : w.Fits columns) (sized : Sized w.content)
    (narrow : g.isBlank = true → g.width = 1) : w'.Fits columns := by
  have within {row : List Glyph} (part : row.Sublist w.content) :
      ∀ row' ∈ row :: w.done, BeginsBefore columns row' := by
    intro row' member
    rcases List.mem_cons.1 member with rfl | earlier
    · exact fits.begins.of_sublist part
    · exact fits.done row' earlier
  have word : w.word.Sublist w.content := List.sublist_append_right _ _
  have positive : glyphsWidth [] < columns := Nat.lt_of_lt_of_le (by decide) three
  cases step with
  | grow ink room =>
      refine ⟨fits.short, ?_, fits.done, fits.single, fits.start, ?_⟩
      · rw [content_of_word]
        exact .concat room
      · intro begun unspaced
        exact ⟨by simp, (fits.tight begun unspaced).2⟩
  | carry ink begun full =>
      have wide := fits.begins.width_le sized
      have row : w.row.Sublist w.content :=
        (List.sublist_append_left _ _).trans (List.sublist_append_left _ _)
      refine ⟨positive, .concat ?_, within row, .inl rfl, by simp, by simp⟩
      -- the row and the blank after it take two columns at least, so the word is shorter than a row
      simp only [content, glyphsWidth_append] at wide
      have := (sized.of_sublist row).pos begun
      rcases fits.single with unspaced | ⟨b, spaced, _, one⟩
      · have := fits.tight begun unspaced
        omega
      · simp only [spaced, glyphsWidth_cons, one] at wide
        omega
  | lower ink empty first full =>
      have room : glyphsWidth w.word < columns := by omega
      refine ⟨positive, .concat room, ?_, .inl rfl, by simp, by simp⟩
      intro row only
      obtain rfl := List.mem_singleton.1 only
      exact positive
  | split ink empty full =>
      exact ⟨positive, positive, within word, .inl rfl, by simp, by simp⟩
  | squeeze ink empty full =>
      have room : glyphsWidth w.word < columns := by omega
      refine ⟨room, ?_, fits.done, .inl rfl, by simp, fun _ _ => ⟨by simp, Nat.le_of_eq full.symm⟩⟩
      rw [content, List.append_nil]
      exact .concat room
  | close blank full =>
      exact ⟨positive, positive, within fits.trims_line.sublist, .inl rfl, by simp, by simp⟩
  | space blank room begun =>
      refine ⟨room, ?_, fits.done, .inr ⟨g, rfl, blank, narrow blank⟩, fun empty _ => begun empty,
        by simp⟩
      rw [content, List.append_nil]
      exact .concat room

/-- All that is kept, in order. -/
def kept (w : Wrapping) : List Glyph := w.done.reverse.flatten ++ w.content

/-- The step loses at most blanks. -/
theorem Step.trims {w' : Wrapping} (step : w.Step columns g w') (fits : w.Fits columns) :
    Trims w'.kept (w.kept ++ [g]) := by
  have trimmed : Trims (w.done.reverse.flatten ++ (w.row ++ w.word) ++ [g]) (w.kept ++ [g]) :=
    ((Trims.refl _).append fits.trims_content).append (.refl [g])
  have settled : Trims (w.done.reverse.flatten ++ w.line) w.kept :=
    (Trims.refl _).append fits.trims_line
  cases step with
  | grow ink room =>
      rw [kept, content_of_word, ← List.append_assoc]
      exact .refl _
  | carry ink begun full => simpa [kept, content] using trimmed
  | lower ink empty first full => simpa [kept, content, empty, first] using trimmed
  | split ink empty full => simpa [kept, content, empty] using trimmed
  | squeeze ink empty full => simpa [kept, content, empty] using trimmed
  | close blank full => simpa [kept, content] using settled.append (.nil_singleton blank)
  | space blank room begun => simpa [kept, content] using settled.append (.refl [g])

/-- What is sure to stand below the last complete row. -/
def current (w : Wrapping) : List Glyph := if w.row = [] then w.word else w.row

/-- Two rows one below the other are together as wide as a row. -/
def Filled (columns : Nat) (rows : List (List Glyph)) : Prop :=
  rows.IsChain fun below above => columns ≤ glyphsWidth above + glyphsWidth below

theorem Filled.widen {row wider : List Glyph} {rows : List (List Glyph)}
    (filled : Filled columns (row :: rows)) (wide : glyphsWidth row ≤ glyphsWidth wider) :
    Filled columns (wider :: rows) := by
  obtain ⟨above, rest⟩ := List.isChain_cons.1 filled
  exact List.isChain_cons.2 ⟨fun row' last => (above row' last).trans (by omega), rest⟩

theorem width_current_le_line (w : Wrapping) : glyphsWidth w.current ≤ glyphsWidth w.line := by
  by_cases empty : w.row = []
  · rw [line_of_row_eq_nil empty, current, if_pos empty]
  · rw [line_of_row_ne_nil empty, current, if_neg empty, content]
    simp only [glyphsWidth_append]
    omega

/-- The step leaves no row unfilled. -/
theorem Step.filled {w' : Wrapping} (step : w.Step columns g w') (three : 3 ≤ columns)
    (fits : w.Fits columns) (sized : g.width = 1 ∨ g.width = 2)
    (filled : Filled columns (w.current :: w.done)) : Filled columns (w'.current :: w'.done) := by
  cases step with
  | grow ink room =>
      refine filled.widen ?_
      unfold current
      split <;> simp
  | carry ink begun full =>
      rw [current, if_neg begun] at filled
      refine List.isChain_cons_cons.2 ⟨?_, filled⟩
      have := fits.width_blanks_le
      simp only [content, glyphsWidth_append] at full
      simp only [current, if_true, glyphsWidth_append, glyphsWidth_cons]
      omega
  | lower ink empty first full =>
      refine List.isChain_pair.2 ?_
      simp only [current, if_true, glyphsWidth_append, glyphsWidth_cons, glyphsWidth_nil]
      omega
  | split ink empty full =>
      rw [current, if_pos empty] at filled
      exact List.isChain_cons_cons.2 ⟨by omega, filled⟩
  | squeeze ink empty full =>
      have begun : w.word ≠ [] := by
        intro none
        simp only [none, glyphsWidth_nil] at full
        omega
      rw [current, if_pos empty] at filled
      rwa [current, if_neg begun]
  | close blank full =>
      exact List.isChain_cons_cons.2 ⟨by omega, filled.widen w.width_current_le_line⟩
  | space blank room begun =>
      by_cases empty : w.line = []
      · rw [begun empty]
        exact List.isChain_singleton _
      · rw [current, if_neg empty]
        exact filled.widen w.width_current_le_line

theorem Step.follows {w' : Wrapping} {gs : List Glyph} (step : w.Step columns g w') :
    Follows (gs ++ [g]) w' := by
  refine ⟨by simp, ?_⟩
  intro h last ink'
  obtain rfl : g = h := by simpa using last
  cases step with
  | close blank | space blank => simp [blank] at ink'
  | _ => exact ⟨by simp, rfl⟩

/-! ## A whole line -/

/-- What holds of the state after some glyphs. -/
structure Sound (columns : Nat) (gs : List Glyph) (w : Wrapping) : Prop where
  fits : w.Fits columns
  trims : Trims w.kept gs
  filled : Filled columns (w.current :: w.done)
  follows : Follows gs w

theorem sound_start (three : 3 ≤ columns) : Sound columns [] {} where
  fits := by
    have positive : glyphsWidth [] < columns := Nat.lt_of_lt_of_le (by decide) three
    exact ⟨positive, positive, by simp, .inl rfl, by simp, by simp⟩
  trims := .refl []
  filled := List.isChain_singleton _
  follows := ⟨fun _ => rfl, by simp⟩

theorem Sound.add (three : 3 ≤ columns) {gs : List Glyph} (sound : Sound columns gs w)
    (spaced : Spaced (gs ++ [g])) : Sound columns (gs ++ [g]) (w.add columns true g) := by
  have member : g ∈ gs ++ [g] := by simp
  have sizedContent : Sized w.content := by
    refine spaced.sized.of_sublist (.trans ?_ (List.sublist_append_left gs [g]))
    exact (List.sublist_append_right _ _).trans sound.trims.sublist
  have step : w.Step columns g (w.add columns true g) := by
    cases ink : g.isBlank with
    | false =>
        have sized := spaced.sized g member
        by_cases empty : w.row = []
        · exact step_add_of_row_eq_nil three sound.fits ink sized empty
        · exact step_add_of_row_ne_nil three sound.fits ink sized empty
    | true =>
        refine step_add_of_blank three sound.follows ?_ ink (spaced.narrow g member ink)
        intro h last
        obtain ⟨_, _, apart⟩ := List.isChain_append.1 spaced.apart
        cases before : h.isBlank with
        | false => rfl
        | true => exact ink.symm.trans (apart h last g rfl before)
  exact
    { fits := step.fits three sound.fits sizedContent (spaced.narrow g member)
      trims := (step.trims sound.fits).trans (sound.trims.append (.refl [g]))
      filled := step.filled three sound.fits (spaced.sized g member) sound.filled
      follows := step.follows }

theorem sound_foldl (three : 3 ≤ columns) {gs : List Glyph} (spaced : Spaced gs) :
    Sound columns gs (gs.foldl (add columns true) {}) := by
  induction gs using List.reverseRecOn with
  | nil => exact sound_start three
  | append_singleton gs g induction =>
      rw [List.foldl_append]
      exact (induction spaced.of_concat).add three spaced

theorem line_eq_nil_iff : w.line = [] ↔ w.row = [] ∧ w.word = [] := by
  by_cases empty : w.row = []
  · simp [line_of_row_eq_nil empty, empty]
  · simp [line_of_row_ne_nil empty, content, empty]

/-- The rows at the end: the complete ones and the last one, or an empty one if there is none. -/
theorem Fits.finish_eq (fits : w.Fits columns) :
    w.finish true =
      if w.line ≠ [] then w.done.reverse ++ [w.line]
      else if w.done ≠ [] then w.done.reverse
      else [[]] := by
  have ended : (if w.row.isEmpty && w.word.isEmpty && !w.blanks.isEmpty then [] :: w.done
      else w.done) = if w.line = [] ∧ w.blanks ≠ [] then [[]] else w.done := by
    by_cases noRow : w.row = []
    · by_cases unspaced : w.blanks = []
      · simp [unspaced]
      · simp [line_eq_nil_iff, noRow, unspaced, fits.start noRow unspaced]
    · simp [line_eq_nil_iff, noRow]
  unfold finish
  rw [ended, ← line]
  by_cases empty : w.line = []
  · by_cases unspaced : w.blanks = []
    · cases w.done using List.reverseRecOn with
      | nil => simp [empty, unspaced]
      | append_singleton rows row => simp [empty, unspaced]
    · have first := fits.start (line_eq_nil_iff.1 empty).1 unspaced
      simp [empty, unspaced, first]
  · cases w.done using List.reverseRecOn with
    | nil => simp [empty]
    | append_singleton rows row => simp [empty]

end Wrapping

open Wrapping

/-- The rows of a line of words with single blanks between them. -/
structure Wrapped (columns : Nat) (gs : List Glyph) (rows : List (List Glyph)) : Prop where
  /-- Nothing but blanks is lost. -/
  trims : Trims rows.flatten gs
  /-- Every glyph begins within its row. -/
  begins : ∀ row ∈ rows, BeginsBefore columns row
  /-- Two rows one below the other are together as wide as a row. -/
  filled : rows.IsChain fun above below => columns ≤ glyphsWidth above + glyphsWidth below
  /-- There is a row. -/
  nonempty : rows ≠ []
  /-- There is something in the last row, unless it is the only one. -/
  last : rows = [[]] ∨ ∀ row ∈ rows.getLast?, row ≠ []

theorem wrapped_wrapLine {columns : Nat} (three : 3 ≤ columns) {gs : List Glyph}
    (spaced : Spaced gs) : Wrapped columns gs (wrapLine columns true gs) := by
  have sound := sound_foldl three spaced
  rw [wrapLine, sound.fits.finish_eq]
  generalize gs.foldl (add columns true) {} = w at sound
  have trims : Trims (w.done.reverse.flatten ++ w.line) gs :=
    ((Trims.refl _).append sound.fits.trims_line).trans sound.trims
  have filled : Filled columns (w.line :: w.done) := sound.filled.widen w.width_current_le_line
  by_cases empty : w.line = []
  · rw [if_neg (not_not_intro empty)]
    rw [empty, List.append_nil] at trims
    rw [empty] at filled
    by_cases none : w.done = []
    · rw [if_neg (not_not_intro none)]
      rw [none] at trims
      refine ⟨trims, ?_, List.isChain_singleton _, by simp, .inl rfl⟩
      intro row only
      obtain rfl := List.mem_singleton.1 only
      exact Nat.lt_of_lt_of_le (by decide) three
    · rw [if_pos none]
      obtain ⟨above, rest⟩ := List.isChain_cons.1 filled
      refine ⟨trims, ?_, List.isChain_reverse.2 rest, by simpa using none, .inr ?_⟩
      · intro row member
        exact sound.fits.done row (List.mem_reverse.1 member)
      · intro row last
        rw [List.getLast?_reverse] at last
        have wide := above row last
        rintro rfl
        rw [glyphsWidth_nil] at wide
        omega
  · rw [if_pos empty]
    refine ⟨by simpa using trims, ?_, ?_, by simp, .inr ?_⟩
    · intro row member
      rcases List.mem_append.1 member with earlier | last
      · exact sound.fits.done row (List.mem_reverse.1 earlier)
      · obtain rfl := List.mem_singleton.1 last
        exact sound.fits.begins.of_sublist sound.fits.trims_line.sublist
    · rw [← List.reverse_cons]
      exact List.isChain_reverse.2 filled
    · simpa using empty

/-- Rows that are filled two by two are not many. -/
theorem lt_width_of_filled {columns : Nat} :
    ∀ {rows : List (List Glyph)}, rows ≠ [] →
      (rows.IsChain fun above below => columns ≤ glyphsWidth above + glyphsWidth below) →
      (∀ row ∈ rows.getLast?, 0 < glyphsWidth row) →
      (rows.length - 1) / 2 * columns < glyphsWidth rows.flatten
  | [], nonempty, _, _ => absurd rfl nonempty
  | [row], _, _, last => by simpa using last row rfl
  | [first, second], _, _, last => by
      have := last second rfl
      have whole : glyphsWidth [first, second].flatten =
          glyphsWidth first + glyphsWidth second := by
        simp
      have half : ([first, second].length - 1) / 2 * columns = 0 := by simp
      omega
  | first :: second :: third :: rows, _, filled, last => by
      obtain ⟨pair, rest⟩ := List.isChain_cons_cons.1 filled
      have := lt_width_of_filled (List.cons_ne_nil third rows) (List.isChain_cons_cons.1 rest).2
        last
      have half : (rows.length + 3 - 1) / 2 = (rows.length + 1 - 1) / 2 + 1 := by omega
      simp only [List.length_cons, List.flatten_cons, glyphsWidth_append] at this ⊢
      rw [half, Nat.succ_mul]
      omega

/-- A line has at most twice the rows that its columns would fill. -/
theorem lt_width_of_wrapLine {columns : Nat} (three : 3 ≤ columns) {gs : List Glyph}
    (spaced : Spaced gs) (nonempty : gs ≠ []) :
    ((wrapLine columns true gs).length - 1) / 2 * columns < glyphsWidth gs := by
  have wrapped := wrapped_wrapLine three spaced
  rcases wrapped.last with only | last
  · rw [only]
    simpa using spaced.sized.pos nonempty
  · refine Nat.lt_of_lt_of_le (lt_width_of_filled wrapped.nonempty wrapped.filled ?_)
      (glyphsWidth_le_of_sublist wrapped.trims.sublist)
    intro row isLast
    refine Sized.pos ?_ (last row isLast)
    have member : row ∈ wrapLine columns true gs := List.mem_of_getLast? isLast
    exact (spaced.sized.of_sublist wrapped.trims.sublist).of_sublist
      (List.sublist_flatten_of_mem member)

end Showcase.Screen
