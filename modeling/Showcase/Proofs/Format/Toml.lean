import Mathlib.Data.List.Nodup
import Mathlib.Data.List.TakeWhile
import Showcase.Format.Toml.Document
import Showcase.Proofs.Format.Strings
import Showcase.Proofs.Lookup

/-!
# Documents of TOML, line by line

A document is written one statement a line.  Between the statements there may be empty lines, blanks
stand around the parts of a line, and a comment may follow what a line says.  `WritesLines` says
which texts are written so for which statements; the values that may be assigned are a parameter.

Main statements: the statements are read off every such text (`WritesLines.statements?_eq`), and
from there a series of tables with texts in them is built as it was written
(`read?_of_writesTables`).

The reader passes over empty lines with a bounded number of steps.  `skipBetween?_eq` is the same
without the bound.
-/

namespace Showcase.Toml

/-! ## Ends of lines -/

/-- Blanks alone, or nothing. -/
def Blank (cs : List Char) : Prop := ∀ c ∈ cs, isBlank c = true

instance (cs : List Char) : Decidable (Blank cs) := List.decidableBAll _ cs

theorem blank_nil : Blank [] := by decide

theorem skipBlanks_append {before : List Char} (blank : Blank before) (cs : List Char) :
    skipBlanks (before ++ cs) = skipBlanks cs :=
  List.dropWhile_append_of_pos blank

theorem skipBlanks_cons {c : Char} (solid : isBlank c = false) (cs : List Char) :
    skipBlanks (c :: cs) = c :: cs := by
  simp [skipBlanks, solid]

/-- A comment, or nothing. -/
inductive Note : List Char → Prop where
  | nothing : Note []
  | comment {text : List Char} : (∀ c ∈ text, isPlain c = true) → Note ('#' :: text)

/-- A text stops a line, and the other one follows. -/
inductive Break : List Char → List Char → Prop where
  | atEnd : Break [] []
  | lineFeed {rest : List Char} : Break ('\n' :: rest) rest
  | carriageReturn {rest : List Char} : Break ('\r' :: '\n' :: rest) rest

/-- A text starts with the end of a line, and the other one follows. -/
def EndsLine (cs rest : List Char) : Prop :=
  ∃ before note after, Blank before ∧ Note note ∧ Break after rest ∧
    cs = before ++ (note ++ after)

theorem Break.dropNewline_eq {after rest : List Char} (stops : Break after rest) :
    dropNewline after = rest := by
  cases stops <;> rfl

theorem Break.comment?_eq {text after rest : List Char} (plain : ∀ c ∈ text, isPlain c = true)
    (stops : Break after rest) : comment? ('#' :: (text ++ after)) = some after := by
  rw [comment?, List.dropWhile_append_of_pos plain]
  cases stops <;> rfl

theorem newline?_length {cs rest : List Char} (found : newline? cs = some rest) :
    rest.length < cs.length := by
  unfold newline? at found
  split at found
  · cases found
    simp
  · cases found
    simp only [List.length_cons]
    omega
  · cases found

theorem comment?_length {cs rest : List Char} (found : comment? cs = some rest) :
    rest.length < cs.length := by
  unfold comment? at found
  split at found
  next cs =>
    have short := (List.dropWhile_suffix isPlain (l := cs)).length_le
    split at found
    · cases found
      simp
    · split at found
      · cases found
        exact Nat.lt_succ_of_le short
      · cases found
  next => cases found

/-- How many steps there are makes no difference once there are enough. -/
theorem skipLines?_congr {n m : Nat} {cs : List Char} (enough : cs.length < n)
    (alsoEnough : cs.length < m) : skipLines? n cs = skipLines? m cs := by
  induction n generalizing m cs with
  | zero => omega
  | succ n induction =>
      obtain ⟨m, rfl⟩ := Nat.exists_eq_succ_of_ne_zero (Nat.ne_zero_of_lt alsoEnough)
      have short : (skipBlanks cs).length ≤ cs.length :=
        (List.dropWhile_suffix isBlank).length_le
      rw [skipLines?, skipLines?]
      split
      · rfl
      · next c rest here =>
        rw [here] at short
        split
        · cases found : comment? (c :: rest) with
          | none => rfl
          | some others =>
              have := comment?_length found
              exact induction (by omega) (by omega)
        · split
          · next others found =>
            have := newline?_length found
            exact induction (by omega) (by omega)
          · rfl

/-- Passing over blanks, comments and line endings, without a bound on the steps. -/
theorem skipBetween?_eq (cs : List Char) :
    skipBetween? cs = match skipBlanks cs with
      | [] => some []
      | c :: rest =>
        if c = '#' then (comment? (c :: rest)).bind skipBetween?
        else match newline? (c :: rest) with
          | some others => skipBetween? others
          | none => some (c :: rest) := by
  have short : (skipBlanks cs).length ≤ cs.length := (List.dropWhile_suffix isBlank).length_le
  rw [skipBetween?, skipLines?]
  cases here : skipBlanks cs with
  | nil => rfl
  | cons c rest =>
      rw [here] at short
      simp only
      congr 1
      · cases found : comment? (c :: rest) with
        | none => rfl
        | some others =>
            have := comment?_length found
            exact skipLines?_congr (by omega) (Nat.lt_succ_self _)
      · cases found : newline? (c :: rest) with
        | none => rfl
        | some others =>
            have := newline?_length found
            exact skipLines?_congr (by omega) (Nat.lt_succ_self _)

theorem skipBetween?_append {before : List Char} (blank : Blank before) (cs : List Char) :
    skipBetween? (before ++ cs) = skipBetween? cs := by
  rw [skipBetween?_eq, skipBlanks_append blank, ← skipBetween?_eq]

theorem Break.skipBetween?_eq {after rest : List Char} (stops : Break after rest) :
    skipBetween? after = skipBetween? rest := by
  cases stops with
  | atEnd => rfl
  | lineFeed => rw [Toml.skipBetween?_eq]; rfl
  | carriageReturn => rw [Toml.skipBetween?_eq]; rfl

/-- The rest of a line is passed over. -/
theorem EndsLine.skipBetween?_eq {cs rest : List Char} (ends : EndsLine cs rest) :
    skipBetween? cs = skipBetween? rest := by
  obtain ⟨before, note, after, blank, noted, stops, rfl⟩ := ends
  rw [skipBetween?_append blank]
  cases noted with
  | nothing => exact stops.skipBetween?_eq
  | comment plain =>
      rw [Toml.skipBetween?_eq, List.cons_append, skipBlanks_cons (by decide)]
      simp only [if_true, stops.comment?_eq plain, Option.bind_some, stops.skipBetween?_eq]

/-- The rest of a line is what ends it. -/
theorem EndsLine.endLine?_eq {cs rest : List Char} (ends : EndsLine cs rest) :
    endLine? cs = some rest := by
  obtain ⟨before, note, after, blank, noted, stops, rfl⟩ := ends
  rw [endLine?, skipBlanks_append blank]
  cases noted with
  | nothing => cases stops <;> rfl
  | comment plain =>
      rw [List.cons_append, skipBlanks_cons (by decide)]
      simp only [if_true, stops.comment?_eq plain, Option.map_some, stops.dropNewline_eq]

theorem EndsLine.length_le {cs rest : List Char} (ends : EndsLine cs rest) :
    rest.length ≤ cs.length := by
  obtain ⟨before, note, after, _, _, stops, rfl⟩ := ends
  have : rest.length ≤ after.length := by
    cases stops with
    | atEnd => exact Nat.le_refl _
    | lineFeed => exact Nat.le_succ _
    | carriageReturn => exact Nat.le_add_right _ 2
  simp only [List.length_append]
  omega

/-- The end of a line does not start with a character of a key or a value. -/
theorem EndsLine.head?_mem {cs rest : List Char} (ends : EndsLine cs rest) :
    cs.head? ∈ [none, some ' ', some '\t', some '#', some '\n', some '\r'] := by
  obtain ⟨before, note, after, blank, noted, stops, rfl⟩ := ends
  cases before with
  | cons c before =>
      have : c = ' ' ∨ c = '\t' := by simpa [isBlank] using blank c (by simp)
      rcases this with rfl | rfl <;> simp
  | nil =>
      cases noted with
      | comment _ => simp
      | nothing => cases stops <;> simp

/-! ## Keys -/

/-- A name that needs no quotes as a key. -/
def IsBare (name : String) : Prop :=
  name.toList ≠ [] ∧ ∀ c ∈ name.toList, isKeyChar c = true

instance (name : String) : Decidable (IsBare name) :=
  @instDecidableAnd _ _ _ (List.decidableBAll _ _)

/-- A key of one part is written. -/
inductive WritesKey : String → List Char → Prop where
  | bare {name : String} : IsBare name → WritesKey name name.toList
  | quoted {name : String} {cs : List Char} :
      Text.InQuotes WritesChar name cs → WritesKey name cs

theorem isKeyChar_eq_false_of_isBlank {c : Char} (blank : isBlank c = true) :
    isKeyChar c = false := by
  have : c = ' ' ∨ c = '\t' := by simpa [isBlank] using blank
  rcases this with rfl | rfl <;> decide

/-- The characters that a key may start with. -/
theorem WritesKey.opens {name : String} {cs : List Char} (written : WritesKey name cs) :
    ∃ c inner, cs = c :: inner ∧ (c = '"' ∨ isKeyChar c = true) := by
  cases written with
  | bare bare =>
      obtain ⟨c, inner, together⟩ := List.exists_cons_of_ne_nil bare.1
      exact ⟨c, inner, together, Or.inr (bare.2 c (by simp [together]))⟩
  | quoted quoted =>
      obtain ⟨ways, _, rfl⟩ := quoted
      exact ⟨_, _, rfl, Or.inl rfl⟩

theorem keyPart?_bare {name : String} (bare : IsBare name) {c : Char} (stops : isKeyChar c = false)
    (rest : List Char) : keyPart? (name.toList ++ c :: rest) = some (name, c :: rest) := by
  have taken : (name.toList ++ c :: rest).takeWhile isKeyChar = name.toList := by
    simp [List.takeWhile_append_of_pos bare.2, stops]
  have dropped : (name.toList ++ c :: rest).dropWhile isKeyChar = c :: rest := by
    simp [List.dropWhile_append_of_pos bare.2, stops]
  obtain ⟨first, others, together⟩ := List.exists_cons_of_ne_nil bare.1
  have key : isKeyChar first = true := bare.2 first (by simp [together])
  have text : String.ofList (first :: others) = name := by rw [← together, String.ofList_toList]
  rw [together] at taken dropped ⊢
  unfold keyPart?
  split
  next opened =>
    cases opened
    exact absurd key (by decide)
  next opened =>
    cases opened
    exact absurd key (by decide)
  next => simp only [taken, dropped, text]

theorem keyPart?_quoted {name : String} {cs : List Char} (quoted : Text.InQuotes WritesChar name cs)
    (rest : List Char) : keyPart? (cs ++ rest) = some (name, rest) := by
  obtain ⟨inner, together, read⟩ := basic?_inQuotes quoted rest
  rw [together]
  simp only [keyPart?, read, Option.map_some, String.ofList_toList]

/-- A key of one part is read up to the sign that follows it. -/
theorem WritesKey.key?_eq {name : String} {cs : List Char} (written : WritesKey name cs)
    {after : List Char} (blank : Blank after) {sign : Char} (noKey : isKeyChar sign = false)
    (solid : isBlank sign = false) (noPoint : sign ≠ '.') (fuel : Nat) (rest : List Char) :
    key? (fuel + 1) (cs ++ (after ++ sign :: rest)) = some ([], name, sign :: rest) := by
  have part : keyPart? (cs ++ (after ++ sign :: rest)) = some (name, after ++ sign :: rest) := by
    cases written with
    | quoted quoted => exact keyPart?_quoted quoted _
    | bare bare =>
        cases after with
        | nil => exact keyPart?_bare bare noKey rest
        | cons c after =>
            exact keyPart?_bare bare (isKeyChar_eq_false_of_isBlank (blank c (by simp))) _
  simp only [key?, part, Option.bind_eq_bind, Option.bind_some, skipBlanks_append blank,
    skipBlanks_cons solid]
  split
  next opened =>
    cases opened
    exact absurd rfl noPoint
  next => rfl

/-! ## Statements -/

/-- A statement is written, with a key of one part and a value that `writes` allows. -/
inductive WritesStatement (writes : Node → List Char → Prop) : Statement → List Char → Prop where
  | header {name : String} {before key after : List Char} :
      Blank before → WritesKey name key → Blank after →
      WritesStatement writes (.header [] name) ('[' :: (before ++ (key ++ (after ++ [']']))))
  | series {name : String} {before key after : List Char} :
      Blank before → WritesKey name key → Blank after →
      WritesStatement writes (.series [] name)
        ('[' :: '[' :: (before ++ (key ++ (after ++ [']', ']']))))
  | assign {name : String} {value : Node} {key before after text : List Char} :
      WritesKey name key → Blank before → Blank after → writes value text →
      WritesStatement writes (.assign [] name value) (key ++ (before ++ '=' :: (after ++ text)))

/-- Statements are written one a line. -/
inductive WritesLines (writes : Node → List Char → Prop) : List Statement → List Char → Prop where
  | nil : WritesLines writes [] []
  | skip {statements : List Statement} {line rest : List Char} :
      EndsLine line rest → WritesLines writes statements rest → WritesLines writes statements line
  | cons {statement : Statement} {statements : List Statement}
      {before text after rest : List Char} :
      Blank before → WritesStatement writes statement text → EndsLine after rest →
      WritesLines writes statements rest →
      WritesLines writes (statement :: statements) (before ++ (text ++ after))

/-- Values of a kind are read where a line ends after them, and do not start with a blank. -/
structure ReadsValues (writes : Node → List Char → Prop) : Prop where
  opens {value : Node} {text : List Char} :
    writes value text → ∃ c inner, text = c :: inner ∧ isBlank c = false
  reads {value : Node} {text after rest : List Char} :
    writes value text → EndsLine after rest →
      value? ((text ++ after).length + 1) deepest (text ++ after) = some (value, after)

section Statements

variable {writes : Node → List Char → Prop}

theorem WritesKey.skipBlanks_eq {name : String} {before key : List Char} (blank : Blank before)
    (written : WritesKey name key) (rest : List Char) :
    skipBlanks (before ++ (key ++ rest)) = key ++ rest := by
  obtain ⟨c, inner, rfl, first⟩ := written.opens
  have solid : isBlank c = false := by
    rcases first with rfl | key
    · decide
    · cases blank : isBlank c with
      | false => rfl
      | true =>
          rw [isKeyChar_eq_false_of_isBlank blank] at key
          cases key
  rw [skipBlanks_append blank, List.cons_append, skipBlanks_cons solid]

/-- Neither a key nor blanks before it start with a bracket. -/
theorem WritesKey.ne_bracket {name : String} {before key rest others : List Char}
    (blank : Blank before) (written : WritesKey name key) :
    before ++ (key ++ rest) ≠ '[' :: others := by
  intro opened
  cases before with
  | cons c before =>
      cases opened
      exact absurd (blank '[' (by simp)) (by decide)
  | nil =>
      obtain ⟨c, inner, rfl, first⟩ := written.opens
      cases opened
      exact absurd first (by decide)

/-- A statement is read off the head of a line. -/
theorem WritesStatement.statement?_eq (values : ReadsValues writes) {statement : Statement}
    {text after rest : List Char} (written : WritesStatement writes statement text)
    (ends : EndsLine after rest) : statement? (text ++ after) = some (statement, after) := by
  cases written with
  | @header name before key blanks blankBefore named blankAfter =>
      have key := named.key?_eq blankAfter (by decide : isKeyChar ']' = false) (by decide)
        (by decide)
      simp only [List.cons_append, List.append_assoc, List.nil_append]
      unfold statement?
      split
      next others opened => exact absurd (List.cons.inj opened).2 (named.ne_bracket blankBefore)
      next others _ opened =>
        obtain rfl := (List.cons.inj opened).2
        simp only [named.skipBlanks_eq blankBefore, key, Option.bind_eq_bind, Option.bind_some]
        rfl
      next _ _ other => exact absurd rfl (other _)
  | @series name before key blanks blankBefore named blankAfter =>
      have key := named.key?_eq blankAfter (by decide : isKeyChar ']' = false) (by decide)
        (by decide)
      simp only [List.cons_append, List.append_assoc, List.nil_append, statement?,
        named.skipBlanks_eq blankBefore, key, Option.bind_eq_bind, Option.bind_some]
      rfl
  | @assign name value key before between text named blankBefore blankAfter given =>
      have read := named.key?_eq blankBefore (by decide : isKeyChar '=' = false) (by decide)
        (by decide)
      have value : skipBlanks (between ++ (text ++ after)) = text ++ after := by
        obtain ⟨c, inner, rfl, solid⟩ := values.opens given
        rw [skipBlanks_append blankAfter, List.cons_append, skipBlanks_cons solid]
      have noBracket (others : List Char) :
          key ++ (before ++ '=' :: (between ++ (text ++ after))) ≠ '[' :: others :=
        fun opened => named.ne_bracket blank_nil ((List.nil_append _).trans opened)
      simp only [List.cons_append, List.append_assoc]
      unfold statement?
      split
      next opened => exact absurd opened (noBracket _)
      next opened => exact absurd opened (noBracket _)
      next =>
        simp only [read, Option.bind_eq_bind, Option.bind_some, value, values.reads given ends]
        rfl

/-- What is passed over between statements ends where a statement starts. -/
theorem WritesStatement.skipBetween?_eq {statement : Statement} {before text : List Char}
    (blank : Blank before) (written : WritesStatement writes statement text) (after : List Char) :
    ∃ c inner, text = c :: inner ∧
      skipBetween? (before ++ (text ++ after)) = some (c :: (inner ++ after)) := by
  obtain ⟨c, inner, rfl, first⟩ :
      ∃ c inner, text = c :: inner ∧ (c = '[' ∨ c = '"' ∨ isKeyChar c = true) := by
    cases written with
    | header _ _ _ => exact ⟨_, _, rfl, Or.inl rfl⟩
    | series _ _ _ => exact ⟨_, _, rfl, Or.inl rfl⟩
    | assign named _ _ _ =>
        obtain ⟨c, inner, rfl, first⟩ := named.opens
        exact ⟨_, _, rfl, Or.inr first⟩
  have other {d : Char} (no : ¬ (d = '[' ∨ d = '"' ∨ isKeyChar d = true)) : c ≠ d :=
    fun same => no (same ▸ first)
  have solid : isBlank c = false := by
    simp [isBlank, other (by decide : ¬ (' ' = '[' ∨ ' ' = '"' ∨ isKeyChar ' ' = true)),
      other (by decide : ¬ ('\t' = '[' ∨ '\t' = '"' ∨ isKeyChar '\t' = true))]
  have noComment : c ≠ '#' := other (by decide)
  have noNewline : newline? (c :: (inner ++ after)) = none := by
    unfold newline?
    split
    next opened => exact absurd (List.cons.inj opened).1 (other (by decide))
    next opened => exact absurd (List.cons.inj opened).1 (other (by decide))
    next => rfl
  refine ⟨c, inner, rfl, ?_⟩
  rw [skipBetween?_append blank, Toml.skipBetween?_eq, List.cons_append, skipBlanks_cons solid]
  simp only [noComment, if_false, noNewline]

/-- The statements of a document are read off its lines. -/
theorem WritesLines.statements?_eq (values : ReadsValues writes) {statements : List Statement}
    {cs : List Char} (written : WritesLines writes statements cs) {fuel : Nat}
    (enough : cs.length < fuel) : statements? fuel cs = some statements := by
  induction written generalizing fuel with
  | nil =>
      obtain ⟨fuel, rfl⟩ := Nat.exists_eq_succ_of_ne_zero (Nat.ne_zero_of_lt enough)
      rfl
  | @skip statements line rest ends _ induction =>
      -- With and without the empty line, the first statement is found at the same place.
      have read := induction (Nat.lt_of_le_of_lt ends.length_le enough)
      obtain ⟨fuel, rfl⟩ := Nat.exists_eq_succ_of_ne_zero (Nat.ne_zero_of_lt enough)
      rw [Toml.statements?, ends.skipBetween?_eq, ← Toml.statements?, read]
  | @cons statement statements before text after rest blank said ends _ induction =>
      obtain ⟨fuel, rfl⟩ := Nat.exists_eq_succ_of_ne_zero (Nat.ne_zero_of_lt enough)
      obtain ⟨c, inner, rfl, found⟩ := said.skipBetween?_eq blank after
      have short := ends.length_le
      simp only [List.length_append, List.length_cons] at enough
      have read := said.statement?_eq values ends
      rw [List.cons_append] at read
      simp only [Toml.statements?, found, read, ends.endLine?_eq, Option.bind_eq_bind,
        Option.bind_some, induction (by omega : rest.length < fuel)]
      rfl

end Statements

/-! ## Texts as values -/

/-- A text is written as a string with escapes on one line. -/
inductive WritesText : Node → List Char → Prop where
  | mk {s : String} {cs : List Char} :
      Text.InQuotes WritesChar s cs → WritesText (.scalar (.string s)) cs

theorem readsTexts : ReadsValues WritesText where
  opens := by
    rintro _ _ ⟨ways, _, rfl⟩
    exact ⟨_, _, rfl, by decide⟩
  reads := by
    rintro _ _ after rest ⟨quoted⟩ ends
    have closed : after.head? ≠ some '"' := by
      intro opened
      have := ends.head?_mem
      rw [opened] at this
      exact absurd this (by decide)
    have read := string?_inQuotes quoted closed
    obtain ⟨ways, _, rfl⟩ := quoted
    rw [List.cons_append] at read ⊢
    unfold value?
    change ((string? ('"' :: (ways ++ ['"'] ++ after))).map _).map _ = _
    rw [read]
    simp only [Option.map_some, String.ofList_toList]

/-! ## Series of tables -/

/-- The statement that gives a field. -/
def assignmentOf (field : String × String) : Statement :=
  .assign [] field.1 (.scalar (.string field.2))

/-- The statements that give tables in a series. -/
def statementsOf (series : String) (tables : List (List (String × String))) : List Statement :=
  tables.flatMap fun fields => .series [] series :: fields.map assignmentOf

/-- A text gives tables in a series. -/
def WritesTables (series : String) (tables : List (List (String × String))) (s : String) : Prop :=
  WritesLines WritesText (statementsOf series tables) s.toList

/-- A field as a row of a table. -/
def rowOf (field : String × String) : String × Node := (field.1, .scalar (.string field.2))

theorem lookup_rowOf (fields : List (String × String)) (name : String) :
    (fields.map rowOf).lookup name =
      (fields.lookup name).map fun text => .scalar (.string text) :=
  lookup_map (fun text => Node.scalar (.string text)) fields name

/-- Fields as a table. -/
def tableOf (fields : List (String × String)) : Node := .table .header (fields.map rowOf)

/-- The rows of a document that gives tables in a series. -/
def rowsOf (series : String) : List (List (String × String)) → Rows
  | [] => []
  | tables => [(series, .series (tables.map tableOf))]

/-- A header in double brackets starts an empty table. -/
theorem apply?_series (series : String) (tables : List (List (String × String)))
    (scope : List String) :
    Draft.apply? ⟨rowsOf series tables, scope⟩ (.series [] series) =
      some ⟨[(series, .series (tables.map tableOf ++ [tableOf []]))], [series]⟩ := by
  cases tables with
  | nil => rfl
  | cons fields tables =>
      simp [rowsOf, Draft.apply?, Rows.extend?, Rows.alter?, Rows.replace, tableOf]

/-- A new field goes to the end of the last table. -/
theorem apply?_assignmentOf (series : String) (items : List Node) {fields : List (String × String)}
    {field : String × String} (new : field.1 ∉ fields.map (·.1)) :
    Draft.apply? ⟨[(series, .series (items ++ [tableOf fields]))], [series]⟩ (assignmentOf field) =
      some ⟨[(series, .series (items ++ [tableOf (fields ++ [field])]))], [series]⟩ := by
  have free : (fields.map rowOf).lookup field.1 = none := by
    rw [lookup_rowOf, lookup_eq_none_of_notMem new, Option.map_none]
  simp [assignmentOf, Draft.apply?, Rows.alter?, Rows.assign?, tableOf, Rows.replace, Rows.add,
    free, rowOf]

/-- Fields with different names fill the last table in their order. -/
theorem foldlM_assignmentOf (series : String) (items : List Node)
    {fields more : List (String × String)} (distinct : ((fields ++ more).map (·.1)).Nodup) :
    (more.map assignmentOf).foldlM Draft.apply?
        ⟨[(series, .series (items ++ [tableOf fields]))], [series]⟩ =
      some ⟨[(series, .series (items ++ [tableOf (fields ++ more)]))], [series]⟩ := by
  induction more generalizing fields with
  | nil => simp
  | cons field more induction =>
      have new : field.1 ∉ fields.map (·.1) := by
        intro member
        rw [List.map_append, List.map_cons] at distinct
        exact (List.nodup_middle.1 distinct).notMem (List.mem_append_left _ member)
      rw [List.append_cons fields field more] at distinct ⊢
      rw [List.map_cons, List.foldlM_cons, apply?_assignmentOf series items new]
      exact induction distinct

/-- Tables without repeated names are built one after the other. -/
theorem foldlM_statementsOf (series : String) (tables : List (List (String × String)))
    {more : List (List (String × String))}
    (distinct : ∀ fields ∈ more, (fields.map (·.1)).Nodup) (scope : List String) :
    ∃ scope', (statementsOf series more).foldlM Draft.apply? ⟨rowsOf series tables, scope⟩ =
      some ⟨rowsOf series (tables ++ more), scope'⟩ := by
  induction more generalizing tables scope with
  | nil => exact ⟨scope, by simp [statementsOf]⟩
  | cons fields more induction =>
      -- The header starts an empty table, and the fields fill it.
      have filled : (fields.map assignmentOf).foldlM Draft.apply?
          ⟨[(series, .series (tables.map tableOf ++ [tableOf []]))], [series]⟩ =
          some ⟨rowsOf series (tables ++ [fields]), [series]⟩ := by
        have named : (([] ++ fields : List (String × String)).map (·.1)).Nodup :=
          distinct fields (by simp)
        rw [foldlM_assignmentOf series _ named]
        cases tables <;> simp [rowsOf]
      obtain ⟨last, built⟩ := induction (tables ++ [fields])
        (fun others member => distinct others (List.mem_cons_of_mem _ member)) [series]
      refine ⟨last, ?_⟩
      rw [List.append_cons, ← built]
      simp only [statementsOf, List.flatMap_cons, List.cons_append, List.foldlM_cons,
        List.foldlM_append, apply?_series, Option.bind_eq_bind, Option.bind_some, filled]

theorem build?_statementsOf (series : String) {tables : List (List (String × String))}
    (distinct : ∀ fields ∈ tables, (fields.map (·.1)).Nodup) :
    build? (statementsOf series tables) = some (rowsOf series tables) := by
  obtain ⟨scope, built⟩ : ∃ scope, (statementsOf series tables).foldlM Draft.apply? {} =
      some ⟨rowsOf series ([] ++ tables), scope⟩ := foldlM_statementsOf series [] distinct []
  rw [build?, built]
  rfl

/-- No statement starts with a byte order mark. -/
theorem statements?_mark (fuel : Nat) (rest : List Char) :
    statements? fuel ('\uFEFF' :: rest) = none := by
  cases fuel with
  | zero => rfl
  | succ fuel =>
      have found : skipBetween? ('\uFEFF' :: rest) = some ('\uFEFF' :: rest) := by
        rw [skipBetween?_eq]
        rfl
      have noStatement : statement? ('\uFEFF' :: rest) = none := rfl
      simp only [statements?, found, noStatement, Option.bind_eq_bind, Option.bind_some,
        Option.bind_none]

theorem dropMark_eq {fuel : Nat} {cs : List Char} {statements : List Statement}
    (read : statements? fuel cs = some statements) : dropMark cs = cs := by
  cases cs with
  | nil => rfl
  | cons c rest =>
      have noMark : c.toNat ≠ 0xFEFF := by
        intro mark
        obtain rfl : c = '\uFEFF' := by rw [← Char.ofNat_toNat c, mark]
        rw [statements?_mark] at read
        cases read
      simp only [dropMark, noMark, if_false]

/-- A text that gives tables in a series is read as these tables, if none names a field twice. -/
theorem read?_of_writesTables {series : String} {tables : List (List (String × String))}
    {s : String} (written : WritesTables series tables s)
    (distinct : ∀ fields ∈ tables, (fields.map (·.1)).Nodup) :
    read? s = some (rowsOf series tables) := by
  have statements := WritesLines.statements?_eq readsTexts written (Nat.lt_succ_self _)
  simp only [read?, dropMark_eq statements, statements, Option.bind_eq_bind, Option.bind_some,
    build?_statementsOf series distinct]

/-! ## Writing tables -/

/-- A key of one part, in quotes if it needs them. -/
def writeKey (name : String) : List Char :=
  if IsBare name then name.toList else writeString name

/-- A field on a line of its own. -/
def writeField (field : String × String) : List Char :=
  writeKey field.1 ++ ([' '] ++ '=' :: ([' '] ++ writeString field.2)) ++ ['\n']

/-- A table of a series: its header and its fields. -/
def writeTable (series : String) (fields : List (String × String)) : List Char :=
  '[' :: '[' :: (writeKey series ++ [']', ']']) ++ '\n' :: fields.flatMap writeField

/-- Tables in a series. -/
def writeTables (series : String) (tables : List (List (String × String))) : String :=
  String.ofList (tables.flatMap (writeTable series))

theorem writesKey_writeKey (name : String) : WritesKey name (writeKey name) := by
  unfold writeKey
  split
  next bare => exact .bare bare
  next => exact .quoted (inQuotes_writeString name)

theorem endsLine_lineFeed (rest : List Char) : EndsLine ('\n' :: rest) rest :=
  ⟨[], [], '\n' :: rest, blank_nil, .nothing, .lineFeed, rfl⟩

/-- Fields may be written in front of a document. -/
theorem writesLines_writeField {statements : List Statement} {rest : List Char}
    (lines : WritesLines WritesText statements rest) (fields : List (String × String)) :
    WritesLines WritesText (fields.map assignmentOf ++ statements)
      (fields.flatMap writeField ++ rest) := by
  induction fields with
  | nil => exact lines
  | cons field fields induction =>
      have said : WritesStatement WritesText (assignmentOf field)
          (writeKey field.1 ++ ([' '] ++ '=' :: ([' '] ++ writeString field.2))) :=
        .assign (writesKey_writeKey field.1) (by decide) (by decide)
          (.mk (inQuotes_writeString field.2))
      simpa [writeField] using
        WritesLines.cons blank_nil said (endsLine_lineFeed _) induction

theorem writesTables_writeTables (series : String) (tables : List (List (String × String))) :
    WritesTables series tables (writeTables series tables) := by
  unfold WritesTables writeTables
  rw [String.toList_ofList]
  induction tables with
  | nil => exact .nil
  | cons fields tables induction =>
      have said : WritesStatement WritesText (.series [] series)
          ('[' :: '[' :: ([] ++ (writeKey series ++ ([] ++ [']', ']'])))) :=
        .series blank_nil (writesKey_writeKey series) blank_nil
      simpa [statementsOf, writeTable] using
        WritesLines.cons blank_nil said (endsLine_lineFeed _)
          (writesLines_writeField induction fields)

end Showcase.Toml
