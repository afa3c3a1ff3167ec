import Showcase.Proofs.Format.Toml
import Showcase.Proofs.Text.Digits

/-!
# Documents of tables

A document may assign values of all kinds, first outside of any table and then in tables, each under
a header of its own.  `WritesValue` says how strings, truth values and whole numbers are written, and
admits every other value that the reader takes for one; `documentOf` gives the statements of such a
document.

Main statement: if no name is given twice, the document is read as its rows and tables in their
order (`read?_of_writesDocument`).
-/

namespace Showcase.Toml

/-! ## Words -/

theorem EndsLine.takeWhile_eq {after rest : List Char} (ends : EndsLine after rest) :
    after.takeWhile isWordChar = [] ∧ after.dropWhile isWordChar = after := by
  have head := ends.head?_mem
  cases after with
  | nil => exact ⟨rfl, rfl⟩
  | cons c after =>
      have stops : ∀ found ∈ [none, some ' ', some '\t', some '#', some '\n', some '\r'],
          found.all (!isWordChar ·) = true := by decide
      have noWord : isWordChar c = false := by simpa using stops _ head
      exact ⟨by simp [noWord], by simp [noWord]⟩

section

variable {first : List Char} (words : first.all isWordChar = true)
  (noDate : date? first ≠ some []) {after rest : List Char} (ends : EndsLine after rest)
include words noDate ends

theorem word_eq : word (first ++ after) = (first, after) := by
  obtain ⟨none, all⟩ := ends.takeWhile_eq
  rw [List.all_eq_true] at words
  simp only [word, List.takeWhile_append_of_pos words, List.dropWhile_append_of_pos words, none, all,
    List.append_nil, noDate, false_and, if_false]
  split <;> rfl

/-- A word is read where a line ends after it. -/
theorem value?_word (filled : first ≠ []) {value : Scalar} (spelled : wordScalar? first = some value)
    (fuel depth : Nat) :
    value? (fuel + 1) depth (first ++ after) = some (.scalar value, after) := by
  have read := word_eq words noDate ends
  obtain ⟨c, others, rfl⟩ := List.exists_cons_of_ne_nil filled
  have noSign : ∀ sign ∈ ['[', '{', '"', '\''], c ≠ sign := by
    have signs : ['[', '{', '"', '\''].all (!isWordChar ·) = true := by decide
    have wordly : isWordChar c = true := List.all_eq_true.1 words c List.mem_cons_self
    rintro sign member rfl
    simpa [wordly] using List.all_eq_true.1 signs c member
  simp only [List.forall_mem_cons] at noSign
  obtain ⟨noBracket, noBrace, noQuote, noTick, _⟩ := noSign
  rw [List.cons_append] at read ⊢
  have scalar : scalar? (c :: (others ++ after)) = some (value, after) := by
    unfold scalar?
    split
    next opened => exact absurd (List.cons.inj opened).1 noQuote
    next opened => exact absurd (List.cons.inj opened).1 noTick
    next => simp only [read, spelled, Option.map_some]
  unfold value?
  split
  next opened => exact absurd (List.cons.inj opened).1 noBracket
  next opened => exact absurd (List.cons.inj opened).1 noBrace
  next => simp only [scalar, Option.map_some]

end

/-! ## Whole numbers -/

/-- A date has a line between its numbers. -/
theorem line_mem_of_date? {cs rest : List Char} (dated : date? cs = some rest) : '-' ∈ cs := by
  simp only [date?, Option.bind_eq_bind, Option.bind_eq_some_iff] at dated
  obtain ⟨⟨year, others⟩, four, dated⟩ := dated
  dsimp only [fixed?] at four
  split at four
  next =>
    cases four
    split at dated
    next more opened => exact List.mem_of_mem_drop (opened ▸ List.mem_cons_self)
    next => cases dated
  next => cases four

theorem isGrouped_of_forall {isDigit : Char → Bool} {cs : List Char} (filled : cs ≠ [])
    (digits : ∀ c ∈ cs, isDigit c = true ∧ c ≠ '_') : isGrouped isDigit cs = true := by
  fun_induction isGrouped isDigit cs with
  | case1 => exact absurd rfl filled
  | case2 c => exact (digits c List.mem_cons_self).1
  | case3 c cs => exact absurd rfl (digits '_' (by simp)).2
  | case4 c cs single _ induction =>
      rw [List.forall_mem_cons] at digits
      rw [digits.1.1, induction (fun empty => single (empty ▸ rfl)) digits.2]
      rfl

theorem isWhole_toDigits (n : Nat) : isWhole (Nat.toDigits 10 n) = true := by
  have grouped : isGrouped Char.isDigit (Nat.toDigits 10 n) = true := by
    have digits : Text.digits.all (fun c => c.isDigit && c != '_') = true := by decide
    exact isGrouped_of_forall Nat.toDigits_ne_nil fun c member => by
      simpa using Text.forall_mem_toDigits digits n c member
  by_cases zero : n = 0
  · subst zero
    decide
  · have first := Text.head?_toDigits zero
    unfold isWhole
    split
    next => rfl
    next opened => exact absurd (opened ▸ rfl) first
    next => exact grouped

theorem numberIn_toDigits (n : Nat) : numberIn 10 (Nat.toDigits 10 n) = n := by
  have value : Nat.ofDigitChars 10 (Nat.toDigits 10 n) 0 = n :=
    Nat.ofDigitChars_toDigits (by decide) (by decide)
  rw [Nat.ofDigitChars_eq_foldl] at value
  have digits : Text.digits.all (fun c => Hex.digit? c == some (c.toNat - '0'.toNat)) = true := by
    decide
  rw [numberIn]
  conv_rhs => rw [← value]
  refine List.foldl_ext _ _ _ fun sofar c member => ?_
  rw [eq_of_beq (Text.forall_mem_toDigits digits n c member), Nat.mul_comm]

theorem number?_toDigits (n : Nat) : number? (Nat.toDigits 10 n) = some (.integer n) := by
  have noSign {c : Char} (member : c ∈ Nat.toDigits 10 n) : c ∈ Text.digits :=
    Text.mem_digits_of_mem_toDigits member
  have decimal : decimal? false (Nat.toDigits 10 n) (Nat.toDigits 10 n) = some (.integer n) := by
    simp only [decimal?, isWhole_toDigits, numberIn_toDigits]
    rfl
  unfold number?
  split
  next opened => exact absurd (noSign (c := 'x') (by simp [opened])) (by decide)
  next opened => exact absurd (noSign (c := 'o') (by simp [opened])) (by decide)
  next opened => exact absurd (noSign (c := 'b') (by simp [opened])) (by decide)
  next opened => exact absurd (noSign (c := '+') (by simp [opened])) (by decide)
  next opened => exact absurd (noSign (c := '-') (by simp [opened])) (by decide)
  next => exact decimal

theorem wordScalar?_toDigits (n : Nat) : wordScalar? (Nat.toDigits 10 n) = some (.integer n) := by
  have noLetter {c : Char} (member : c ∈ Nat.toDigits 10 n) : c ∈ Text.digits :=
    Text.mem_digits_of_mem_toDigits member
  have noTrue : Nat.toDigits 10 n ≠ "true".toList := fun same =>
    absurd (noLetter (c := 't') (by simp [same])) (by decide)
  have noFalse : Nat.toDigits 10 n ≠ "false".toList := fun same =>
    absurd (noLetter (c := 'f') (by simp [same])) (by decide)
  rw [wordScalar?, if_neg noTrue, if_neg noFalse, number?_toDigits, Option.some_or]

/-! ## Values -/

/-- A value is written: a string with escapes on one line, a truth value, a whole number in decimal
digits, or anything else that the reader takes for a value wherever a line ends after it. -/
inductive WritesValue : Node → List Char → Prop where
  | text {s : String} {cs : List Char} :
      Text.InQuotes WritesChar s cs → WritesValue (.scalar (.string s)) cs
  | flag (value : Bool) : WritesValue (.scalar (.bool value)) (toString value).toList
  | number (n : Nat) : WritesValue (.scalar (.integer n)) (toString n).toList
  | other {value : Node} {c : Char} {inner : List Char} : isBlank c = false →
      (∀ after rest, EndsLine after rest →
        value? ((c :: inner ++ after).length + 1) deepest (c :: inner ++ after) =
          some (value, after)) →
      WritesValue value (c :: inner)

theorem readsValues : ReadsValues WritesValue where
  opens := by
    intro value text written
    cases written with
    | text quoted => exact readsTexts.opens (.mk quoted)
    | flag value => cases value <;> exact ⟨_, _, rfl, by decide⟩
    | other solid _ => exact ⟨_, _, rfl, solid⟩
    | number n =>
        rw [Nat.toString_eq_ofList_toDigits, String.toList_ofList]
        obtain ⟨c, others, together⟩ : ∃ c others, Nat.toDigits 10 n = c :: others :=
          List.exists_cons_of_ne_nil Nat.toDigits_ne_nil
        have digits : Text.digits.all (!isBlank ·) = true := by decide
        have solid := Text.forall_mem_toDigits digits n c (together ▸ List.mem_cons_self)
        exact ⟨c, others, together, by simpa using solid⟩
  reads := by
    intro value text after rest written ends
    cases written with
    | text quoted => exact readsTexts.reads (.mk quoted) ends
    | other _ read => exact read after rest ends
    | flag value =>
        cases value with
        | true => exact value?_word (by decide) (by decide) ends (by decide) (by decide) _ _
        | false => exact value?_word (by decide) (by decide) ends (by decide) (by decide) _ _
    | number n =>
        rw [Nat.toString_eq_ofList_toDigits, String.toList_ofList]
        have words : (Nat.toDigits 10 n).all isWordChar = true :=
          List.all_eq_true.2 (Text.forall_mem_toDigits (by decide) n)
        have noLine : '-' ∉ Nat.toDigits 10 n := fun member =>
          absurd (Text.mem_digits_of_mem_toDigits member) (by decide)
        exact value?_word words (fun dated => noLine (line_mem_of_date? dated)) ends
          Nat.toDigits_ne_nil (wordScalar?_toDigits n) _ _

/-! ## Rows and tables -/

/-- The statement that gives a row. -/
def assignRow (row : String × Node) : Statement := .assign [] row.1 row.2

/-- The statements of a document: rows outside of any table, and then tables with a header each. -/
def documentOf (rows : Rows) (tables : List (String × Rows)) : List Statement :=
  rows.map assignRow ++ tables.flatMap fun table => .header [] table.1 :: table.2.map assignRow

/-- A table with a header as a row. -/
def tableRow (table : String × Rows) : String × Node := (table.1, .table .header table.2)

/-- New rows are added in their order, wherever one new row is added at the end. -/
theorem foldlM_assignRow (draft : Rows → Draft)
    (step : ∀ (rows : Rows) (row : String × Node), row.1 ∉ rows.map (·.1) →
      Draft.apply? (draft rows) (assignRow row) = some (draft (rows ++ [row])))
    {rows more : Rows} (distinct : ((rows ++ more).map (·.1)).Nodup) :
    (more.map assignRow).foldlM Draft.apply? (draft rows) = some (draft (rows ++ more)) := by
  induction more generalizing rows with
  | nil => simp
  | cons row more induction =>
      have new : row.1 ∉ rows.map (·.1) := by
        intro member
        rw [List.map_append, List.map_cons] at distinct
        exact (List.nodup_middle.1 distinct).notMem (List.mem_append_left _ member)
      rw [List.append_cons rows row more] at distinct ⊢
      rw [List.map_cons, List.foldlM_cons, step rows row new]
      exact induction distinct

/-- Outside of any table a row goes to the end. -/
theorem apply?_assignRow (rows : Rows) (row : String × Node) (new : row.1 ∉ rows.map (·.1)) :
    Draft.apply? ⟨rows, []⟩ (assignRow row) = some ⟨rows ++ [row], []⟩ := by
  simp [assignRow, Draft.apply?, Rows.alter?, Rows.assign?, Rows.add, lookup_eq_none_of_notMem new]

theorem apply?_header {rows : Rows} {name : String} (new : name ∉ rows.map (·.1))
    (scope : List String) :
    Draft.apply? ⟨rows, scope⟩ (.header [] name) = some ⟨rows ++ [tableRow (name, [])], [name]⟩ := by
  simp [tableRow, Draft.apply?, Rows.open?, Rows.alter?, Rows.add, lookup_eq_none_of_notMem new]

section

variable {front : Rows} {name : String} (new : name ∉ front.map (·.1))
include new

theorem lookup_last (node : Node) : (front ++ [(name, node)]).lookup name = some node := by
  rw [List.lookup_append, lookup_eq_none_of_notMem new, List.lookup_cons_self]
  rfl

theorem replace_last (old node : Node) :
    Rows.replace name node (front ++ [(name, old)]) = front ++ [(name, node)] := by
  induction front with
  | nil => simp [Rows.replace]
  | cons row front induction =>
      rw [List.map_cons, List.mem_cons, not_or] at new
      rw [List.cons_append, Rows.replace, if_neg (Ne.symm new.1), induction new.2]
      rfl

/-- In the table spoken of a row goes to the end of that table. -/
theorem apply?_assignRow_inside (inner : Rows) (row : String × Node)
    (newInside : row.1 ∉ inner.map (·.1)) :
    Draft.apply? ⟨front ++ [tableRow (name, inner)], [name]⟩ (assignRow row) =
      some ⟨front ++ [tableRow (name, inner ++ [row])], [name]⟩ := by
  simp [assignRow, Draft.apply?, Rows.alter?, Rows.assign?, Rows.add, tableRow, lookup_last new,
    replace_last new, Origin.admits, lookup_eq_none_of_notMem newInside]

end

/-- Tables with new names are added in their order. -/
theorem foldlM_tables {rows : Rows} {tables : List (String × Rows)}
    (distinct : ((rows ++ tables.map tableRow).map (·.1)).Nodup)
    (inside : ∀ table ∈ tables, (table.2.map (·.1)).Nodup) (scope : List String) :
    ∃ scope', (tables.flatMap fun table => .header [] table.1 :: table.2.map assignRow).foldlM
      Draft.apply? ⟨rows, scope⟩ = some ⟨rows ++ tables.map tableRow, scope'⟩ := by
  induction tables generalizing rows scope with
  | nil => exact ⟨scope, by simp⟩
  | cons table tables induction =>
      obtain ⟨name, inner⟩ := table
      rw [List.forall_mem_cons] at inside
      have new : name ∉ rows.map (·.1) := by
        intro member
        rw [List.map_cons, List.map_append, List.map_cons] at distinct
        exact (List.nodup_middle.1 distinct).notMem (List.mem_append_left _ member)
      -- The header starts an empty table, and the rows fill it.
      have filled : (inner.map assignRow).foldlM Draft.apply?
          ⟨rows ++ [tableRow (name, [])], [name]⟩ =
          some ⟨rows ++ [tableRow (name, inner)], [name]⟩ :=
        foldlM_assignRow (fun inner => ⟨rows ++ [tableRow (name, inner)], [name]⟩)
          (apply?_assignRow_inside new) inside.1
      rw [List.map_cons, List.append_cons] at distinct
      obtain ⟨last, built⟩ := induction distinct inside.2 [name]
      refine ⟨last, ?_⟩
      rw [List.map_cons, List.append_cons, ← built]
      simp only [List.flatMap_cons, List.cons_append, List.foldlM_cons, List.foldlM_append,
        apply?_header new, Option.bind_eq_bind, Option.bind_some, filled]

section

variable {rows : Rows} {tables : List (String × Rows)}
  (distinct : ((rows ++ tables.map tableRow).map (·.1)).Nodup)
  (inside : ∀ table ∈ tables, (table.2.map (·.1)).Nodup)
include distinct inside

theorem build?_documentOf :
    build? (documentOf rows tables) = some (rows ++ tables.map tableRow) := by
  have outside : (([] ++ rows : Rows).map (·.1)).Nodup := by
    rw [List.map_append] at distinct
    exact (List.nodup_append.1 distinct).1
  have top : (rows.map assignRow).foldlM Draft.apply? {} = some ⟨rows, []⟩ :=
    foldlM_assignRow (fun rows => ⟨rows, []⟩) apply?_assignRow outside
  obtain ⟨scope, built⟩ := foldlM_tables distinct inside []
  rw [build?, documentOf, List.foldlM_append, top, Option.bind_eq_bind, Option.bind_some, built]
  rfl

/-- A document in which no name is given twice is read as its rows and tables. -/
theorem read?_of_writesDocument {s : String}
    (written : WritesLines WritesValue (documentOf rows tables) s.toList) :
    read? s = some (rows ++ tables.map tableRow) := by
  have statements := WritesLines.statements?_eq readsValues written (Nat.lt_succ_self _)
  simp only [read?, dropMark_eq statements, statements, Option.bind_eq_bind, Option.bind_some,
    build?_documentOf distinct inside]

end

/-! ## Writing documents -/

/-- A row may be written in front of a document. -/
theorem writesLines_assignRow (name : String) {value : Node} {text : List Char}
    (written : WritesValue value text) {statements : List Statement} {rest : List Char}
    (lines : WritesLines WritesValue statements rest) :
    WritesLines WritesValue (assignRow (name, value) :: statements)
      (writeKey name ++ [' ', '=', ' '] ++ text ++ '\n' :: rest) := by
  have said : WritesStatement WritesValue (assignRow (name, value))
      (writeKey name ++ ([' '] ++ '=' :: ([' '] ++ text))) :=
    .assign (writesKey_writeKey name) (by decide) (by decide) written
  simpa using WritesLines.cons blank_nil said (endsLine_lineFeed rest) lines

/-- The header of a table may be written in front of a document. -/
theorem writesLines_header (name : String) {statements : List Statement} {rest : List Char}
    (lines : WritesLines WritesValue statements rest) :
    WritesLines WritesValue (.header [] name :: statements)
      ('[' :: (writeKey name ++ ']' :: '\n' :: rest)) := by
  have said : WritesStatement WritesValue (.header [] name)
      ('[' :: ([] ++ (writeKey name ++ ([] ++ [']'])))) :=
    .header blank_nil (writesKey_writeKey name) blank_nil
  simpa using WritesLines.cons blank_nil said (endsLine_lineFeed rest) lines

end Showcase.Toml
