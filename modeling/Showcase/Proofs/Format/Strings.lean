import Mathlib.Tactic.Ring
import Showcase.Format.Json
import Showcase.Format.Toml.Scalar

/-!
# Strings with escapes

Between its quotes a string is written character by character, and there is more than one way to
write most characters: as themselves, by a letter after a backslash, or by their code.  A format
says which ways there are (`Json.WritesChar`, `Toml.WritesChar`), and `Text.Spells` puts them
together.

Main statements: whatever way was chosen for each character, the reader finds the text again and
stops right after the closing quote (`Json.string?_inQuotes`, `Toml.string?_inQuotes`).  Each
format's own writer chooses one of the ways (`Json.inQuotes_writeString`,
`Toml.inQuotes_writeString`).

JSON names a character past the first 65536 by two codes, so one character may be read as two codes,
which are joined later.  In TOML a third quote after two would open a string of another kind, which
is why what follows a string must not start with one.
-/

namespace Showcase

/-! ## Hexadecimal numbers -/

namespace Hex

/-- A number is written with so many digits, each in either case. -/
inductive Writes : Nat → Nat → List Char → Prop where
  | nil : Writes 0 0 []
  | cons {count n d : Nat} {c : Char} {ds : List Char} :
      d < 16 → c = Nat.digitChar d ∨ c = (Nat.digitChar d).toUpper → Writes count n ds →
      Writes (count + 1) (d * 16 ^ count + n) (c :: ds)

theorem digit?_digitChar : ∀ d < 16,
    digit? (Nat.digitChar d) = some d ∧ digit? (Nat.digitChar d).toUpper = some d := by
  decide

theorem Writes.length_eq {count n : Nat} {ds : List Char} (written : Writes count n ds) :
    ds.length = count := by
  induction written with
  | nil => rfl
  | cons _ _ _ induction => rw [List.length_cons, induction]

theorem Writes.number?_eq {count n : Nat} {ds : List Char} (written : Writes count n ds)
    (high : Nat) : number? high ds = some (high * 16 ^ count + n) := by
  induction written generalizing high with
  | nil => simp [number?]
  | @cons count n d c ds small digit _ induction =>
      have value : digit? c = some d := by
        rcases digit with rfl | rfl
        · exact (digit?_digitChar d small).1
        · exact (digit?_digitChar d small).2
      rw [number?, value, Option.bind_some, induction]
      congr 1
      ring

theorem Writes.code?_append {count n : Nat} {ds : List Char} (written : Writes count n ds)
    (rest : List Char) : code? count (ds ++ rest) = some (n, rest) := by
  have length := written.length_eq
  have first : (ds ++ rest).take count = ds := by rw [← length, List.take_left]
  have others : (ds ++ rest).drop count = rest := by rw [← length, List.drop_left]
  simp [code?, first, others, length, written.number?_eq]

theorem writes_digitChar {count n : Nat} {ds : List Char} (d : Nat) (written : Writes count n ds) :
    Writes (count + 1) (d % 16 * 16 ^ count + n) (digitChar d :: ds) :=
  .cons (Nat.mod_lt d (by decide)) (Or.inl rfl) written

/-- The code of a byte in four digits. -/
theorem writes_byte {n : Nat} (small : n < 256) : Writes 4 n ('0' :: '0' :: byte n) := by
  have written := Writes.cons (d := 0) (by decide) (Or.inl rfl) <|
    Writes.cons (d := 0) (by decide) (Or.inl rfl) <|
      writes_digitChar (n / 16) <| writes_digitChar n Writes.nil
  have value : 0 * 16 ^ (0 + 1 + 1 + 1) + (0 * 16 ^ (0 + 1 + 1) +
      (n / 16 % 16 * 16 ^ (0 + 1) + (n % 16 * 16 ^ 0 + 0))) = n := by
    omega
  rw [value] at written
  exact written

end Hex

/-! ## Texts in quotes -/

namespace Text

/-- No character has the code of a surrogate. -/
theorem toNat_ranges (c : Char) : c.toNat < 0xD800 ∨ 0xDFFF < c.toNat ∧ c.toNat < 0x110000 :=
  c.valid

/-- Characters are written one after the other, each in one of its ways. -/
inductive Spells (writes : Char → List Char → Prop) : List Char → List Char → Prop where
  | nil : Spells writes [] []
  | cons {c : Char} {cs way ways : List Char} :
      writes c way → Spells writes cs ways → Spells writes (c :: cs) (way ++ ways)

/-- A text is written between quotes. -/
def InQuotes (writes : Char → List Char → Prop) (s : String) (cs : List Char) : Prop :=
  ∃ ways, Spells writes s.toList ways ∧ cs = '"' :: (ways ++ ['"'])

/-- A writer of characters writes texts. -/
theorem spells_flatMap {writes : Char → List Char → Prop} {write : Char → List Char}
    (each : ∀ c, writes c (write c)) (cs : List Char) : Spells writes cs (cs.flatMap write) := by
  induction cs with
  | nil => exact .nil
  | cons c cs induction => exact .cons (each c) induction

end Text

/-! ## JSON -/

namespace Json

/-- The letters after a backslash and the characters they stand for. -/
def letters : List (Char × Char) := [
  ('"', '"'), ('\\', '\\'), ('/', '/'), ('b', '\x08'), ('f', '\x0c'), ('n', '\n'), ('r', '\r'),
  ('t', '\t')]

/-- The ways to write a character in a JSON string. -/
inductive WritesChar : Char → List Char → Prop where
  /-- As itself, if it is no quote, backslash or control. -/
  | plain {c : Char} : c ≠ '"' → c ≠ '\\' → 0x20 ≤ c.toNat → WritesChar c [c]
  /-- By a letter. -/
  | letter {c letter : Char} : (letter, c) ∈ letters → WritesChar c ['\\', letter]
  /-- By its code. -/
  | code {c : Char} {ds : List Char} :
      c.toNat < 0x10000 → Hex.Writes 4 c.toNat ds → WritesChar c ('\\' :: 'u' :: ds)
  /-- By two codes that carry ten bits each. -/
  | pair {c : Char} {high low : List Char} :
      0x10000 ≤ c.toNat →
      Hex.Writes 4 (0xD800 + (c.toNat - 0x10000) / 0x400) high →
      Hex.Writes 4 (0xDC00 + (c.toNat - 0x10000) % 0x400) low →
      WritesChar c ('\\' :: 'u' :: high ++ '\\' :: 'u' :: low)

theorem joinHalves?_char (c : Char) (ns : List Nat) :
    joinHalves? (c.toNat :: ns) = (joinHalves? ns).map (c :: ·) := by
  have notLow : isLowHalf c.toNat = false := by
    simp only [isLowHalf, Bool.and_eq_false_iff, decide_eq_false_iff_not]
    have := Text.toNat_ranges c
    omega
  have notHigh : isHighHalf c.toNat = false := by
    simp only [isHighHalf, Bool.and_eq_false_iff, decide_eq_false_iff_not]
    have := Text.toNat_ranges c
    omega
  rw [joinHalves?.eq_def]
  simp only [notLow, notHigh, Bool.false_eq_true, if_false, Char.ofNat_toNat]

/-- Two halves are joined to the character they were made of. -/
theorem joinHalves?_pair {c : Char} (large : 0x10000 ≤ c.toNat) (ns : List Nat) :
    joinHalves? ((0xD800 + (c.toNat - 0x10000) / 0x400) ::
      (0xDC00 + (c.toNat - 0x10000) % 0x400) :: ns) = (joinHalves? ns).map (c :: ·) := by
  obtain ⟨n, offset⟩ : ∃ n, c.toNat = 0x10000 + n := ⟨c.toNat - 0x10000, by omega⟩
  have bounded : n < 0x100000 := by
    have := Text.toNat_ranges c
    omega
  rw [offset, Nat.add_sub_cancel_left]
  have notLow : isLowHalf (0xD800 + n / 0x400) = false := by
    simp only [isLowHalf, Bool.and_eq_false_iff, decide_eq_false_iff_not]
    omega
  have high : isHighHalf (0xD800 + n / 0x400) = true := by
    simp only [isHighHalf, Bool.and_eq_true, decide_eq_true_eq]
    omega
  have low : isLowHalf (0xDC00 + n % 0x400) = true := by
    simp only [isLowHalf, Bool.and_eq_true, decide_eq_true_eq]
    omega
  have joined : Char.ofNat (0x10000 + (0xD800 + n / 0x400 - 0xD800) * 0x400 +
      (0xDC00 + n % 0x400 - 0xDC00)) = c := by
    have value : 0x10000 + (0xD800 + n / 0x400 - 0xD800) * 0x400 +
        (0xDC00 + n % 0x400 - 0xDC00) = c.toNat := by omega
    rw [value, Char.ofNat_toNat]
  rw [joinHalves?.eq_def]
  simp only [notLow, high, low, if_true, Bool.false_eq_true, if_false, joined]

theorem escapeCode?_letter {letter c : Char} (known : (letter, c) ∈ letters) (rest : List Char) :
    escapeCode? (letter :: rest) = some (c.toNat, rest) := by
  simp only [letters, List.mem_cons, Prod.mk.injEq, List.not_mem_nil, or_false] at known
  rcases known with ⟨rfl, rfl⟩ | ⟨rfl, rfl⟩ | ⟨rfl, rfl⟩ | ⟨rfl, rfl⟩ | ⟨rfl, rfl⟩ | ⟨rfl, rfl⟩ |
    ⟨rfl, rfl⟩ | ⟨rfl, rfl⟩
  all_goals rfl

theorem escapeCode?_code {n : Nat} {ds : List Char} (digits : Hex.Writes 4 n ds)
    (rest : List Char) : escapeCode? ('u' :: (ds ++ rest)) = some (n, rest) :=
  digits.code?_append rest

theorem codes?_plain {c : Char} (notQuote : c ≠ '"') (notBackslash : c ≠ '\\')
    (notControl : 0x20 ≤ c.toNat) (fuel : Nat) (rest : List Char) :
    codes? (fuel + 1) (c :: rest) =
      (codes? fuel rest).map fun (ns, rest) => (c.toNat :: ns, rest) := by
  have : ¬ c.toNat < 0x20 := by omega
  simp only [codes?, notQuote, notBackslash, this, if_false]
  cases codes? fuel rest <;> rfl

theorem codes?_escape {cs rest : List Char} {n : Nat} (named : escapeCode? cs = some (n, rest))
    (fuel : Nat) :
    codes? (fuel + 1) ('\\' :: cs) =
      (codes? fuel rest).map fun (ns, rest) => (n :: ns, rest) := by
  have notQuote : '\\' ≠ '"' := by decide
  simp only [codes?, notQuote, if_true, if_false, named, Option.bind_eq_bind, Option.bind_some]
  cases codes? fuel rest <;> rfl

/-- Whatever way a character is written, it is read as codes that join to it. -/
theorem WritesChar.codes? {c : Char} {way : List Char} (written : WritesChar c way) :
    ∃ ms : List Nat, ms.length ≤ way.length ∧
      (∀ fuel rest, Json.codes? (fuel + ms.length) (way ++ rest) =
        (Json.codes? fuel rest).map fun (ns, rest) => (ms ++ ns, rest)) ∧
      (∀ ns, joinHalves? (ms ++ ns) = (joinHalves? ns).map (c :: ·)) := by
  cases written with
  | plain notQuote notBackslash notControl =>
      exact ⟨[c.toNat], Nat.le_refl 1, codes?_plain notQuote notBackslash notControl,
        joinHalves?_char c⟩
  | letter known =>
      exact ⟨[c.toNat], by simp,
        fun fuel rest => codes?_escape (escapeCode?_letter known rest) fuel, joinHalves?_char c⟩
  | code small digits =>
      exact ⟨[c.toNat], by simp,
        fun fuel rest => codes?_escape (escapeCode?_code digits rest) fuel, joinHalves?_char c⟩
  | @pair high low large highDigits lowDigits =>
      refine ⟨[0xD800 + (c.toNat - 0x10000) / 0x400, 0xDC00 + (c.toNat - 0x10000) % 0x400],
        by simp, fun fuel rest => ?_, joinHalves?_pair large⟩
      have first := codes?_escape (escapeCode?_code highDigits ('\\' :: 'u' :: (low ++ rest)))
        (fuel + 1)
      have second := codes?_escape (escapeCode?_code lowDigits rest) fuel
      rw [second, Option.map_map] at first
      rw [List.append_assoc]
      exact first

/-- Whatever ways are chosen, the codes of a text are read up to its closing quote. -/
theorem codes?_spells {cs ways : List Char} (spelled : Text.Spells WritesChar cs ways)
    (rest : List Char) {fuel : Nat} (enough : ways.length < fuel) :
    ∃ ns, codes? fuel (ways ++ '"' :: rest) = some (ns, rest) ∧ joinHalves? ns = some cs := by
  induction spelled generalizing fuel with
  | nil =>
      obtain ⟨fuel, rfl⟩ := Nat.exists_eq_succ_of_ne_zero (Nat.ne_zero_of_lt enough)
      exact ⟨[], rfl, rfl⟩
  | @cons c cs way ways written _ induction =>
      obtain ⟨ms, short, read, joined⟩ := written.codes?
      rw [List.length_append] at enough
      obtain ⟨less, rfl⟩ : ∃ less, fuel = less + ms.length := ⟨fuel - ms.length, by omega⟩
      obtain ⟨ns, found, text⟩ := @induction less (by omega)
      refine ⟨ms ++ ns, ?_, ?_⟩
      · rw [List.append_assoc, read, found]
        rfl
      · rw [joined, text]
        rfl

/-- A string is read as the text it was written for, and the rest is left. -/
theorem string?_inQuotes {s : String} {cs : List Char} (quoted : Text.InQuotes WritesChar s cs)
    (rest : List Char) :
    ∃ inner, cs ++ rest = '"' :: inner ∧ string? inner = some (some s, rest) := by
  obtain ⟨ways, spelled, rfl⟩ := quoted
  have enough : ways.length < (ways ++ '"' :: rest).length + 1 := by
    simp only [List.length_append, List.length_cons]
    omega
  obtain ⟨ns, read, joined⟩ := codes?_spells spelled rest enough
  refine ⟨ways ++ '"' :: rest, by simp, ?_⟩
  simp only [string?, read, Option.map_some, joined, String.ofList_toList]

theorem writesChar_writeChar (c : Char) : WritesChar c (writeChar c) := by
  unfold writeChar
  split
  next quote =>
    subst quote
    exact .letter (by decide)
  next notQuote =>
    split
    next backslash =>
      subst backslash
      exact .letter (by decide)
    next notBackslash =>
      split
      next control => exact .code (by omega) (Hex.writes_byte (by omega))
      next notControl => exact .plain notQuote notBackslash (by omega)

theorem inQuotes_writeString (s : String) : Text.InQuotes WritesChar s (writeString s) :=
  ⟨_, Text.spells_flatMap writesChar_writeChar s.toList, rfl⟩

end Json

/-! ## TOML -/

namespace Toml

/-- The letters after a backslash and the characters they stand for. -/
def letters : List (Char × Char) := [
  ('b', '\x08'), ('t', '\t'), ('n', '\n'), ('f', '\x0c'), ('r', '\r'), ('e', '\x1b'), ('"', '"'),
  ('\\', '\\')]

/-- The letters that announce a code, with the number of its digits. -/
def codeLetters : List (Char × Nat) := [('x', 2), ('u', 4), ('U', 8)]

/-- The ways to write a character in a TOML string of one line. -/
inductive WritesChar : Char → List Char → Prop where
  /-- As itself, if it is no quote, backslash or control; the tab is allowed. -/
  | plain {c : Char} :
      c ≠ '"' → c ≠ '\\' → c = '\t' ∨ (0x20 ≤ c.toNat ∧ c.toNat ≠ 0x7F) → WritesChar c [c]
  /-- By a letter. -/
  | letter {c letter : Char} : (letter, c) ∈ letters → WritesChar c ['\\', letter]
  /-- By its code. -/
  | code {c letter : Char} {count : Nat} {ds : List Char} :
      (letter, count) ∈ codeLetters → Hex.Writes count c.toNat ds →
      WritesChar c ('\\' :: letter :: ds)

theorem charOfCode?_toNat (c : Char) : charOfCode? c.toNat = some c := by
  have valid : c.toNat.isValidChar := c.valid
  simp only [charOfCode?, valid, if_true, Char.ofNat_toNat]

theorem escaped?_letter {letter c : Char} (known : (letter, c) ∈ letters) (rest : List Char) :
    escaped? (letter :: rest) = some (c, rest) := by
  simp only [letters, List.mem_cons, Prod.mk.injEq, List.not_mem_nil, or_false] at known
  rcases known with ⟨rfl, rfl⟩ | ⟨rfl, rfl⟩ | ⟨rfl, rfl⟩ | ⟨rfl, rfl⟩ | ⟨rfl, rfl⟩ | ⟨rfl, rfl⟩ |
    ⟨rfl, rfl⟩ | ⟨rfl, rfl⟩
  all_goals rfl

theorem escaped?_code {letter c : Char} {count : Nat} {ds : List Char}
    (known : (letter, count) ∈ codeLetters) (digits : Hex.Writes count c.toNat ds)
    (rest : List Char) : escaped? (letter :: (ds ++ rest)) = some (c, rest) := by
  have named : escaped?.codeOf count (ds ++ rest) = some (c, rest) := by
    simp only [escaped?.codeOf, digits.code?_append, Option.bind_some, charOfCode?_toNat,
      Option.map_some]
  simp only [codeLetters, List.mem_cons, Prod.mk.injEq, List.not_mem_nil, or_false] at known
  rcases known with ⟨rfl, rfl⟩ | ⟨rfl, rfl⟩ | ⟨rfl, rfl⟩
  all_goals exact named

theorem basic?_plain {c : Char} (notQuote : c ≠ '"') (notBackslash : c ≠ '\\')
    (plain : isPlain c = true) (fuel : Nat) (rest : List Char) :
    basic? (fuel + 1) (c :: rest) =
      (basic? fuel rest).map fun (text, rest) => (c :: text, rest) := by
  simp only [basic?, notQuote, notBackslash, plain, if_true, if_false]
  cases basic? fuel rest <;> rfl

theorem basic?_escape {cs rest : List Char} {c : Char} (named : escaped? cs = some (c, rest))
    (fuel : Nat) :
    basic? (fuel + 1) ('\\' :: cs) =
      (basic? fuel rest).map fun (text, rest) => (c :: text, rest) := by
  have notQuote : '\\' ≠ '"' := by decide
  simp only [basic?, notQuote, if_true, if_false, named, Option.bind_eq_bind, Option.bind_some]
  cases basic? fuel rest <;> rfl

/-- Whatever way a character is written, it is read again. -/
theorem WritesChar.basic? {c : Char} {way : List Char} (written : WritesChar c way) (fuel : Nat)
    (rest : List Char) :
    Toml.basic? (fuel + 1) (way ++ rest) =
      (Toml.basic? fuel rest).map fun (text, rest) => (c :: text, rest) := by
  cases written with
  | plain notQuote notBackslash allowed =>
      exact basic?_plain notQuote notBackslash (by simpa [isPlain] using allowed) fuel rest
  | letter known => exact basic?_escape (escaped?_letter known rest) fuel
  | code known digits => exact basic?_escape (escaped?_code known digits rest) fuel

theorem WritesChar.ne_nil {c : Char} {way : List Char} (written : WritesChar c way) :
    way ≠ [] := by
  cases written <;> simp

/-- Whatever ways are chosen, a text is read up to its closing quote. -/
theorem basic?_spells {cs ways : List Char} (spelled : Text.Spells WritesChar cs ways)
    (rest : List Char) {fuel : Nat} (enough : ways.length < fuel) :
    basic? fuel (ways ++ '"' :: rest) = some (cs, rest) := by
  induction spelled generalizing fuel with
  | nil =>
      obtain ⟨fuel, rfl⟩ := Nat.exists_eq_succ_of_ne_zero (Nat.ne_zero_of_lt enough)
      rfl
  | @cons c cs way ways written _ induction =>
      have long := List.length_pos_iff.2 written.ne_nil
      rw [List.length_append] at enough
      obtain ⟨less, rfl⟩ : ∃ less, fuel = less + 1 := ⟨fuel - 1, by omega⟩
      rw [List.append_assoc, written.basic?, induction (by omega)]
      rfl

/-- No way to write a text starts with a quote. -/
theorem head?_spells {cs ways : List Char} (spelled : Text.Spells WritesChar cs ways) :
    ways.head? ≠ some '"' := by
  cases spelled with
  | nil => simp
  | cons written _ =>
      cases written with
      | plain notQuote _ _ => simpa using notQuote
      | letter _ => simp
      | code _ _ => simp

/-- After its opening quote a string is read as the text it was written for. -/
theorem basic?_inQuotes {s : String} {cs : List Char} (quoted : Text.InQuotes WritesChar s cs)
    (rest : List Char) :
    ∃ inner, cs ++ rest = '"' :: inner ∧
      basic? (inner.length + 1) inner = some (s.toList, rest) := by
  obtain ⟨ways, spelled, rfl⟩ := quoted
  refine ⟨ways ++ '"' :: rest, by simp, basic?_spells spelled rest ?_⟩
  simp only [List.length_append, List.length_cons]
  omega

/-- Two quotes at the head of a string and what follows it are those of an empty text, which no
third one follows. -/
theorem ne_three_quotes {s : String} {cs : List Char} (quoted : Text.InQuotes WritesChar s cs)
    {rest : List Char} (closed : rest.head? ≠ some '"') (inner : List Char) :
    cs ++ rest ≠ '"' :: '"' :: '"' :: inner := by
  obtain ⟨ways, spelled, rfl⟩ := quoted
  intro opened
  have quotes : ways ++ '"' :: rest = '"' :: '"' :: inner := by simpa using opened
  cases ways with
  | nil =>
      rw [List.nil_append, List.cons.injEq] at quotes
      rw [quotes.2] at closed
      exact closed rfl
  | cons first ways =>
      rw [List.cons_append, List.cons.injEq] at quotes
      rw [quotes.1] at spelled
      exact head?_spells spelled rfl

/-- A string is read as the text it was written for, and the rest is left, as long as no third quote
follows two. -/
theorem string?_inQuotes {s : String} {cs : List Char} (quoted : Text.InQuotes WritesChar s cs)
    {rest : List Char} (closed : rest.head? ≠ some '"') :
    string? (cs ++ rest) = some (s.toList, rest) := by
  obtain ⟨inner, together, read⟩ := basic?_inQuotes quoted rest
  have noThree := ne_three_quotes quoted closed
  rw [together] at noThree ⊢
  unfold string?
  split
  next opened => exact absurd opened (noThree _)
  next opened => simp at opened
  next others _ opened =>
    obtain rfl : inner = others := by simpa using opened
    exact read
  next opened => simp at opened
  next _ _ other _ => exact absurd rfl (other inner)

theorem writesChar_writeChar (c : Char) : WritesChar c (writeChar c) := by
  unfold writeChar
  split
  next quote =>
    subst quote
    exact .letter (by decide)
  next notQuote =>
    split
    next backslash =>
      subst backslash
      exact .letter (by decide)
    next notBackslash =>
      split
      next control =>
        have announced : ('u', 4) ∈ codeLetters := by decide
        exact .code announced (Hex.writes_byte (by omega))
      next notControl => exact .plain notQuote notBackslash (by omega)

theorem inQuotes_writeString (s : String) : Text.InQuotes WritesChar s (writeString s) :=
  ⟨_, Text.spells_flatMap writesChar_writeChar s.toList, rfl⟩

end Toml

end Showcase
