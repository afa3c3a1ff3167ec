import Mathlib.Data.List.TakeWhile
import Showcase.Proofs.Format.Strings

/-!
# Tables in JSON

A table is a list of fields, each a name with a text.  A JSON text gives a list of tables as an
array of objects, and it has its freedoms: blanks around every part, and a choice for each character
of each string.  `WritesTables` says which texts give which tables.

Main statement: `read?_of_writesTables`, every such text is read as the array of these objects, the
fields in the order they are written in.

Arrays and objects are read by two functions that go on in the same way after each part.
`ReadsParts` says what they have in common, and that they read every list of parts is proved once
from it, in `ReadsParts.listed`.
-/

namespace Showcase.Json

/-- Blanks alone, or nothing. -/
def Blank (cs : List Char) : Prop := ∀ c ∈ cs, isBlank c = true

instance (cs : List Char) : Decidable (Blank cs) := List.decidableBAll _ cs

theorem skipBlanks_append {before : List Char} (blank : Blank before) (cs : List Char) :
    skipBlanks (before ++ cs) = skipBlanks cs :=
  List.dropWhile_append_of_pos blank

theorem skipBlanks_cons {c : Char} (solid : isBlank c = false) (cs : List Char) :
    skipBlanks (c :: cs) = c :: cs := by
  simp [skipBlanks, solid]

theorem skipBlanks_eq_nil {cs : List Char} (blank : Blank cs) : skipBlanks cs = [] :=
  List.dropWhile_eq_nil_iff.2 blank

/-! ## Lists of parts -/

section Parts

variable {α β : Type} {writes : α → List Char → Prop}

/-- Parts are written one after the other, at least one, with commas between them and blanks
around them. -/
inductive Listed (writes : α → List Char → Prop) : List α → List Char → Prop where
  | last {a : α} {before text after : List Char} :
      Blank before → writes a text → Blank after → Listed writes [a] (before ++ text ++ after)
  | more {a : α} {as : List α} {before text after others : List Char} :
      Blank before → writes a text → Blank after → Listed writes as others →
      Listed writes (a :: as) (before ++ text ++ after ++ ',' :: others)

/-- Parts are written between two brackets, which may be empty. -/
def Bracketed (left right : Char) (writes : α → List Char → Prop) (as : List α)
    (cs : List Char) : Prop :=
  ∃ inner, cs = left :: (inner ++ [right]) ∧ (Listed writes as inner ∨ as = [] ∧ Blank inner)

/-- A reader of lists reads a part, passes over blanks, and then stops at the closing bracket or
goes on after a comma.  It tells a list from nothing by the character that parts start with. -/
structure ReadsParts (writes : α → List Char → Prop) (value : α → β) (first right : Char)
    (read : Nat → List Char → Option (List β × List Char)) : Prop where
  firstSolid : isBlank first = false
  rightSolid : isBlank right = false
  opens {a : α} {text : List Char} : writes a text → ∃ inner, text = first :: inner
  stops {a : α} {text after rest : List Char} {fuel : Nat} :
    writes a text → text.length < fuel → skipBlanks after = right :: rest →
      read (fuel + 1) (text ++ after) = some ([value a], rest)
  goesOn {a : α} {text after others rest : List Char} {bs : List β} {fuel : Nat} :
    writes a text → text.length < fuel → skipBlanks after = ',' :: others →
      read fuel (skipBlanks others) = some (bs, rest) →
      read (fuel + 1) (text ++ after) = some (value a :: bs, rest)

variable {value : α → β} {first right : Char}
  {read : Nat → List Char → Option (List β × List Char)}

theorem ReadsParts.skipBlanks_append (reads : ReadsParts writes value first right read) {a : α}
    {before text : List Char} (blank : Blank before) (written : writes a text)
    (rest : List Char) : skipBlanks (before ++ (text ++ rest)) = text ++ rest := by
  obtain ⟨inner, rfl⟩ := reads.opens written
  rw [Json.skipBlanks_append blank, List.cons_append, skipBlanks_cons reads.firstSolid]

/-- Every list of parts is read up to its closing bracket. -/
theorem ReadsParts.listed (reads : ReadsParts writes value first right read) {as : List α}
    {text : List Char} (listed : Listed writes as text) {fuel : Nat}
    (enough : text.length + 1 < fuel) (rest : List Char) :
    read fuel (skipBlanks (text ++ right :: rest)) = some (as.map value, rest) := by
  -- A step is spent on each part, which has a character at least, so the steps suffice.
  induction listed generalizing fuel with
  | @last a before text after blankBefore written blankAfter =>
      obtain ⟨fuel, rfl⟩ := Nat.exists_eq_succ_of_ne_zero (Nat.ne_zero_of_lt enough)
      simp only [List.length_append] at enough
      rw [List.append_assoc, List.append_assoc, reads.skipBlanks_append blankBefore written]
      refine reads.stops written (by omega) ?_
      rw [Json.skipBlanks_append blankAfter, skipBlanks_cons reads.rightSolid]
  | @more a as before text after others blankBefore written blankAfter _ induction =>
      obtain ⟨fuel, rfl⟩ := Nat.exists_eq_succ_of_ne_zero (Nat.ne_zero_of_lt enough)
      simp only [List.length_append, List.length_cons] at enough
      rw [List.append_assoc, List.append_assoc, List.append_assoc,
        reads.skipBlanks_append blankBefore written]
      refine reads.goesOn written (by omega) ?_ (induction (by omega))
      rw [Json.skipBlanks_append blankAfter, List.cons_append, skipBlanks_cons (by decide)]

/-- What stands after an opening bracket: the closing one, or parts that are read up to it. -/
theorem ReadsParts.bracketed (reads : ReadsParts writes value first right read) {left : Char}
    {as : List α} {text : List Char} (bracketed : Bracketed left right writes as text) {fuel : Nat}
    (enough : text.length < fuel + 1) (rest : List Char) :
    ∃ inner, text ++ rest = left :: inner ∧
      (as = [] ∧ skipBlanks inner = right :: rest ∨
        ∃ parts, skipBlanks inner = first :: parts ∧
          read fuel (first :: parts) = some (as.map value, rest)) := by
  obtain ⟨inner, rfl, listed | ⟨rfl, blank⟩⟩ := bracketed
  · refine ⟨inner ++ right :: rest, by simp, Or.inr ?_⟩
    have bound : inner.length + 1 < fuel := by simpa using enough
    have found := reads.listed listed bound rest
    obtain ⟨parts, opened⟩ : ∃ parts, skipBlanks (inner ++ right :: rest) = first :: parts := by
      cases listed with
      | last blank written _ | more blank written _ _ =>
          obtain ⟨tail, opened⟩ := reads.opens written
          simp only [List.append_assoc, reads.skipBlanks_append blank written]
          rw [opened]
          exact ⟨_, rfl⟩
    exact ⟨parts, opened, opened ▸ found⟩
  · refine ⟨inner ++ right :: rest, by simp, Or.inl ⟨rfl, ?_⟩⟩
    rw [Json.skipBlanks_append blank, skipBlanks_cons reads.rightSolid]

end Parts

/-! ## Tables -/

/-- A field is written: its name, a colon and its text. -/
inductive WritesField : String × String → List Char → Prop where
  | mk {name text : String} {quotedName before after quotedText : List Char} :
      Text.InQuotes WritesChar name quotedName → Blank before → Blank after →
      Text.InQuotes WritesChar text quotedText →
      WritesField (name, text) (quotedName ++ before ++ ':' :: after ++ quotedText)

/-- A table is written as an object. -/
def WritesTable : List (String × String) → List Char → Prop := Bracketed '\x7b' '\x7d' WritesField

/-- A whole text gives tables in an array. -/
def WritesTables (tables : List (List (String × String))) (s : String) : Prop :=
  ∃ before text after, Blank before ∧ Bracketed '[' ']' WritesTable tables text ∧ Blank after ∧
    s.toList = before ++ text ++ after

/-- A field as a member of an object. -/
def memberOf (field : String × String) : Str × Value := (some field.1, .string (some field.2))

/-- A table as a value. -/
def objectOf (fields : List (String × String)) : Value := .object (fields.map memberOf)

theorem value?_inQuotes {s : String} {cs : List Char} (quoted : Text.InQuotes WritesChar s cs)
    (fuel : Nat) (rest : List Char) :
    value? (fuel + 1) (cs ++ rest) = some (.string (some s), rest) := by
  obtain ⟨inner, together, read⟩ := string?_inQuotes quoted rest
  rw [together, value?, read]
  rfl

/-- A string starts with its opening quote, which blanks before it do not hide. -/
theorem skipBlanks_inQuotes {s : String} {before cs : List Char} (blank : Blank before)
    (quoted : Text.InQuotes WritesChar s cs) (rest : List Char) :
    skipBlanks (before ++ (cs ++ rest)) = cs ++ rest := by
  obtain ⟨ways, _, rfl⟩ := quoted
  rw [skipBlanks_append blank, List.cons_append, skipBlanks_cons (by decide)]

/-- What is read of a field: its name, the colon and its text. -/
theorem WritesField.parts {field : String × String} {text : List Char}
    (written : WritesField field text) (after : List Char) :
    ∃ inner afterName afterColon, text ++ after = '"' :: inner ∧
      string? inner = some (some field.1, afterName) ∧ skipBlanks afterName = ':' :: afterColon ∧
      ∀ fuel, value? (fuel + 1) (skipBlanks afterColon) =
        some (.string (some field.2), after) := by
  obtain @⟨name, value, quotedName, before, between, quotedText, named, blankBefore, blankAfter,
    given⟩ := written
  obtain ⟨inner, opened, read⟩ :=
    string?_inQuotes named (before ++ ':' :: (between ++ (quotedText ++ after)))
  refine ⟨inner, before ++ ':' :: (between ++ (quotedText ++ after)),
    between ++ (quotedText ++ after), ?_, read, ?_, fun fuel => ?_⟩
  · rw [← opened]
    simp only [List.append_assoc, List.cons_append]
  · rw [skipBlanks_append blankBefore, skipBlanks_cons (by decide)]
  · rw [skipBlanks_inQuotes blankAfter given, value?_inQuotes given]

theorem readsFields : ReadsParts WritesField memberOf '"' '\x7d' members? where
  firstSolid := by decide
  rightSolid := by decide
  opens := by
    rintro _ _ ⟨⟨ways, _, rfl⟩, _, _, _⟩
    exact ⟨_, rfl⟩
  stops := by
    intro field text after rest fuel written enough closed
    obtain ⟨less, rfl⟩ := Nat.exists_eq_succ_of_ne_zero (Nat.ne_zero_of_lt enough)
    obtain ⟨inner, afterName, afterColon, together, name, colon, value⟩ := written.parts after
    rw [together, members?]
    simp only [name, colon, value, closed, Option.bind_eq_bind, Option.bind_some]
    rfl
  goesOn := by
    intro field text after others rest members fuel written enough comma more
    obtain ⟨less, rfl⟩ := Nat.exists_eq_succ_of_ne_zero (Nat.ne_zero_of_lt enough)
    obtain ⟨inner, afterName, afterColon, together, name, colon, value⟩ := written.parts after
    rw [together, members?]
    simp only [name, colon, value, comma, more, Option.bind_eq_bind, Option.bind_some]
    rfl

theorem value?_writesTable {fields : List (String × String)} {text : List Char}
    (written : WritesTable fields text) {fuel : Nat} (enough : text.length < fuel)
    (rest : List Char) : value? fuel (text ++ rest) = some (objectOf fields, rest) := by
  obtain ⟨fuel, rfl⟩ := Nat.exists_eq_succ_of_ne_zero (Nat.ne_zero_of_lt enough)
  obtain ⟨inner, together, ⟨rfl, closed⟩ | ⟨parts, opened, read⟩⟩ :=
    readsFields.bracketed written enough rest
  · rw [together, value?, closed]
    rfl
  · rw [together, value?, opened]
    change (members? fuel ('"' :: parts)).map _ = _
    rw [read]
    rfl

theorem readsTables : ReadsParts WritesTable objectOf '\x7b' ']' items? where
  firstSolid := by decide
  rightSolid := by decide
  opens := by
    rintro _ _ ⟨inner, rfl, _⟩
    exact ⟨_, rfl⟩
  stops := by
    intro fields text after rest fuel written enough closed
    rw [items?]
    simp only [value?_writesTable written enough, closed, Option.bind_eq_bind, Option.bind_some]
    rfl
  goesOn := by
    intro fields text after others rest items fuel written enough comma more
    rw [items?]
    simp only [value?_writesTable written enough, comma, more, Option.bind_eq_bind,
      Option.bind_some]
    rfl

theorem value?_bracketed {tables : List (List (String × String))} {text : List Char}
    (written : Bracketed '[' ']' WritesTable tables text) {fuel : Nat}
    (enough : text.length < fuel) (rest : List Char) :
    value? fuel (text ++ rest) = some (.array (tables.map objectOf), rest) := by
  obtain ⟨fuel, rfl⟩ := Nat.exists_eq_succ_of_ne_zero (Nat.ne_zero_of_lt enough)
  obtain ⟨inner, together, ⟨rfl, closed⟩ | ⟨parts, opened, read⟩⟩ :=
    readsTables.bracketed written enough rest
  · rw [together, value?, closed]
    rfl
  · rw [together, value?, opened]
    change (items? fuel ('\x7b' :: parts)).map _ = _
    rw [read]
    rfl

/-- A text that gives tables is read as the array of them. -/
theorem read?_of_writesTables {tables : List (List (String × String))} {s : String}
    (written : WritesTables tables s) : read? s = some (.array (tables.map objectOf)) := by
  obtain ⟨before, text, after, blankBefore, bracketed, blankAfter, whole⟩ := written
  have opened : skipBlanks (text ++ after) = text ++ after := by
    obtain ⟨inner, rfl, _⟩ := bracketed
    exact skipBlanks_cons (by decide) _
  have enough : text.length < (before ++ (text ++ after)).length + 1 := by
    simp only [List.length_append]
    omega
  rw [read?, whole, List.append_assoc]
  simp only [skipBlanks_append blankBefore, opened, value?_bracketed bracketed enough,
    Option.bind_eq_bind, Option.bind_some, skipBlanks_eq_nil blankAfter]
  rfl

/-! ## Writing tables -/

/-- A field in the shortest way. -/
def writeField (field : String × String) : List Char :=
  writeString field.1 ++ ':' :: writeString field.2

/-- A table in the shortest way. -/
def writeTable (fields : List (String × String)) : List Char :=
  '\x7b' :: ([','].intercalate (fields.map writeField) ++ ['\x7d'])

/-- Tables in the shortest way. -/
def writeTables (tables : List (List (String × String))) : String :=
  String.ofList ('[' :: ([','].intercalate (tables.map writeTable) ++ [']']))

theorem blank_nil : Blank [] := by decide

theorem listed_intercalate {α : Type} {writes : α → List Char → Prop} {write : α → List Char}
    (each : ∀ a, writes a (write a)) (a : α) (as : List α) :
    Listed writes (a :: as) ([','].intercalate ((a :: as).map write)) := by
  induction as generalizing a with
  | nil => simpa using Listed.last blank_nil (each a) blank_nil
  | cons b bs induction =>
      have listed := Listed.more blank_nil (each a) blank_nil (induction b)
      simpa [List.intercalate_cons_cons] using listed

theorem bracketed_intercalate {α : Type} {writes : α → List Char → Prop} {write : α → List Char}
    (each : ∀ a, writes a (write a)) (left right : Char) (as : List α) :
    Bracketed left right writes as (left :: ([','].intercalate (as.map write) ++ [right])) := by
  refine ⟨_, rfl, ?_⟩
  cases as with
  | nil => exact Or.inr ⟨rfl, blank_nil⟩
  | cons a as => exact Or.inl (listed_intercalate each a as)

theorem writesField_writeField (field : String × String) :
    WritesField field (writeField field) := by
  have written := WritesField.mk (inQuotes_writeString field.1) blank_nil blank_nil
    (inQuotes_writeString field.2)
  simpa [writeField] using written

theorem writesTables_writeTables (tables : List (List (String × String))) :
    WritesTables tables (writeTables tables) := by
  have each : ∀ fields, WritesTable fields (writeTable fields) :=
    bracketed_intercalate writesField_writeField '\x7b' '\x7d'
  exact ⟨[], _, [], blank_nil, bracketed_intercalate each '[' ']' tables, blank_nil,
    by simp [writeTables]⟩

end Showcase.Json
