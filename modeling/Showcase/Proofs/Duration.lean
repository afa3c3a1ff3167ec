import Mathlib.Algebra.GroupWithZero.Nat
import Showcase.Duration
import Showcase.Proofs.Text.Digits

/-!
# What worded durations say

The steps of a sum are checked one by one, but where they all fit, the duration that is read is the
sum of the lengths of its terms (`read?_cases`).  So a duration is zero exactly if it is worded as
`0` or as terms that are all zero (`nanos_eq_zero_iff`), of which there are many: `0s`, `0h 0m`,
`0.0s`, and fractions below the smallest step in which a unit is counted.

A whole number of milliseconds is read as such exactly if its nanoseconds fit into 64 bits
(`read?_millis`), which is less than the 64 bits that its seconds could take.
-/

namespace Showcase.Duration

/-! ## Sums -/

/-- The nanoseconds in `n / parts` units of a scale. -/
def TimeUnit.Scale.length (n parts : Nat) : TimeUnit.Scale → Nat
  | .nanos each => n * each / parts
  | .seconds each => n * each / parts * 1000000000

/-- The nanoseconds that the fraction of a term adds. -/
def Term.fractionLength (t : Term) : Nat :=
  match t.fraction, t.unit.fractionScale? with
  | some ds, some scale => scale.length (decimal ds) (Nat.pow 10 ds.length)
  | _, _ => 0

/-- The length of a term in nanoseconds. -/
def Term.length (t : Term) : Nat := t.unit.scale.length t.whole 1 + t.fractionLength

theorem fit?_eq_some_iff {n m : Nat} : fit? n = some m ↔ n < wordLimit ∧ n = m := by
  unfold fit?
  split
  next small => simp [small]
  next large => simp [large]

theorem nanos_of_add? {d d' : Duration} {seconds nanos : Nat}
    (added : d.add? seconds nanos = some d') :
    d'.nanos = d.nanos + seconds * 1000000000 + nanos := by
  simp only [add?, Option.bind_eq_bind, Option.bind_eq_some_iff, fit?_eq_some_iff] at added
  obtain ⟨_, ⟨_, rfl⟩, _, ⟨_, rfl⟩, _, ⟨_, rfl⟩, same⟩ := added
  cases same
  simp only [subNanos, Duration.seconds]
  omega

theorem nanos_of_addScaled? {d d' : Duration} {scale : TimeUnit.Scale} {n parts : Nat}
    (added : d.addScaled? scale n parts = some d') :
    d'.nanos = d.nanos + scale.length n parts := by
  cases scale with
  | nanos each =>
      obtain ⟨total, fits, added⟩ := Option.bind_eq_some_iff.1 added
      obtain ⟨_, rfl⟩ := fit?_eq_some_iff.1 fits
      rw [nanos_of_add? added, TimeUnit.Scale.length, Nat.zero_mul, Nat.add_zero]
  | seconds each =>
      obtain ⟨total, fits, added⟩ := Option.bind_eq_some_iff.1 added
      obtain ⟨_, rfl⟩ := fit?_eq_some_iff.1 fits
      rw [nanos_of_add? added, TimeUnit.Scale.length, Nat.add_zero]

theorem nanos_of_addTerm? {d d' : Duration} {t : Term} (added : d.addTerm? t = some d') :
    d'.nanos = d.nanos + t.length := by
  simp only [addTerm?, Option.bind_eq_bind, Option.bind_eq_some_iff, fit?_eq_some_iff] at added
  obtain ⟨_, ⟨_, rfl⟩, between, whole, fraction⟩ := added
  have first := nanos_of_addScaled? whole
  unfold Term.length Term.fractionLength
  cases written : t.fraction with
  | none =>
      rw [written] at fraction
      cases fraction
      exact first
  | some ds =>
      rw [written] at fraction
      simp only [Option.bind_eq_some_iff, fit?_eq_some_iff] at fraction
      obtain ⟨_, ⟨_, rfl⟩, scale, known, added⟩ := fraction
      rw [known, nanos_of_addScaled? added, first, Nat.add_assoc]

/-- A sum of terms that fits is the sum of their lengths. -/
theorem nanos_of_foldlM {d d' : Duration} {terms : List Term}
    (added : terms.foldlM addTerm? d = some d') :
    d'.nanos = d.nanos + (terms.map Term.length).sum := by
  induction terms generalizing d with
  | nil =>
      cases added
      rfl
  | cons t terms induction =>
      rw [List.foldlM_cons, Option.bind_eq_bind, Option.bind_eq_some_iff] at added
      obtain ⟨between, first, others⟩ := added
      rw [induction others, nanos_of_addTerm? first, List.map_cons, List.sum_cons, Nat.add_assoc]

/-- A text that words a duration is `0` or a sum of terms. -/
theorem read?_cases {s : String} {d : Duration} (read : read? s = some d) :
    s = "0" ∧ d.nanos = 0 ∨
      s ≠ "0" ∧ ∃ terms, terms? (s.toList.length + 1) s.toList = some terms ∧
        d.nanos = (terms.map Term.length).sum := by
  unfold read? at read
  split at read
  next zero =>
    cases read
    exact Or.inl ⟨zero, rfl⟩
  next other =>
    obtain ⟨terms, worded, added⟩ := Option.bind_eq_some_iff.1 read
    refine Or.inr ⟨other, terms, worded, ?_⟩
    rw [nanos_of_foldlM added, Nat.zero_add]

/-! ## Zero -/

/-- A text words a duration of zero. -/
def WordsZero (s : String) : Prop :=
  s = "0" ∨ ∃ terms, terms? (s.toList.length + 1) s.toList = some terms ∧
    ∀ t ∈ terms, t.whole = 0 ∧ t.fractionLength = 0

/-- A term is zero if its whole number is and its fraction adds nothing. -/
theorem Term.length_eq_zero_iff {t : Term} : t.length = 0 ↔ t.whole = 0 ∧ t.fractionLength = 0 := by
  have whole : t.unit.scale.length t.whole 1 = 0 ↔ t.whole = 0 := by
    cases t.unit <;> simp only [TimeUnit.scale, TimeUnit.Scale.length] <;> omega
  rw [Term.length, Nat.add_eq_zero_iff, whole]

theorem nanos_eq_zero_iff {s : String} {d : Duration} (read : read? s = some d) :
    d.nanos = 0 ↔ WordsZero s := by
  rcases read?_cases read with ⟨zero, none⟩ | ⟨other, terms, worded, total⟩
  · exact iff_of_true none (Or.inl zero)
  · rw [total, List.sum_eq_zero_iff_forall_eq_nat, List.forall_mem_map]
    simp only [WordsZero, other, false_or, worded, Option.some.injEq, exists_eq_left',
      Term.length_eq_zero_iff]

/-! ## Whole milliseconds -/

theorem decimal_toDigits (n : Nat) : decimal (Nat.toDigits 10 n) = n := by
  have value : Nat.ofDigitChars 10 (Nat.toDigits 10 n) 0 = n :=
    Nat.ofDigitChars_toDigits (by decide) (by decide)
  rw [Nat.ofDigitChars_eq_foldl] at value
  simpa only [decimal, Nat.mul_comm 10] using value

/-- Digits with the name of a unit after them are one term. -/
theorem term?_millis (n : Nat) :
    term? (Nat.toDigits 10 n ++ ['m', 's']) = some (⟨n, none, .millisecond⟩, []) := by
  have digit : ∀ c ∈ Nat.toDigits 10 n, c.isDigit = true := fun c member =>
    Nat.isDigit_of_mem_toDigits (by decide) (by decide) member
  have part : ∀ c ∈ Nat.toDigits 10 n, (c.isDigit || Text.isBlank c) = true := fun c member => by
    rw [digit c member, Bool.true_or]
  have spaced : spacedDigits (Nat.toDigits 10 n ++ ['m', 's']) =
      (Nat.toDigits 10 n, ['m', 's']) := by
    have letter : ('m'.isDigit || Text.isBlank 'm') = false := by decide
    simp only [spacedDigits, List.takeWhile_append_of_pos part, List.dropWhile_append_of_pos part,
      List.takeWhile_cons, List.dropWhile_cons, letter, List.append_nil, List.filter_eq_self.2 digit,
      Bool.false_eq_true, if_false]
  obtain ⟨first, others, together⟩ : ∃ first others, Nat.toDigits 10 n = first :: others :=
    List.exists_cons_of_ne_nil Nat.toDigits_ne_nil
  have opens : first.isDigit = true := digit first (together ▸ List.mem_cons_self)
  have value := decimal_toDigits n
  rw [together] at spaced value ⊢
  rw [List.cons_append] at spaced ⊢
  simp only [term?, opens, spaced, value]
  rfl

theorem fit?_of_lt {n : Nat} (small : n < wordLimit) : fit? n = some n :=
  fit?_eq_some_iff.2 ⟨small, rfl⟩

theorem add?_of_lt {nanos : Nat} (small : nanos < wordLimit) :
    add? ⟨0⟩ 0 nanos = some ⟨nanos⟩ := by
  have seconds : nanos / 1000000000 < wordLimit := Nat.lt_of_le_of_lt (Nat.div_le_self ..) small
  have whole : nanos / 1000000000 * 1000000000 + nanos % 1000000000 = nanos := by omega
  simp only [add?, subNanos, Duration.seconds, Nat.zero_mod, Nat.zero_div, Nat.zero_add,
    fit?_of_lt small, fit?_of_lt seconds, Option.bind_eq_bind, Option.bind_some, whole]
  rfl

theorem addTerm?_whole (d : Duration) (n : Nat) (unit : TimeUnit) :
    d.addTerm? ⟨n, none, unit⟩ = (fit? n).bind fun whole => d.addScaled? unit.scale whole 1 := by
  simp only [addTerm?, Option.bind_eq_bind, Option.pure_def, Option.bind_fun_some]

theorem addScaled?_nanos (n each : Nat) :
    addScaled? ⟨0⟩ (.nanos each) n 1 = (fit? (n * each)).map Duration.mk := by
  rw [addScaled?]
  by_cases fits : n * each < wordLimit
  · rw [fit?_of_lt fits, Option.bind_some, Nat.div_one, add?_of_lt fits, Option.map_some]
  · rw [fit?, if_neg fits, Option.bind_none, Option.map_none]

theorem addTerm?_millis (n : Nat) :
    addTerm? ⟨0⟩ ⟨n, none, .millisecond⟩ =
      if n * 1000000 < wordLimit then some (ofMillis n) else none := by
  rw [addTerm?_whole, TimeUnit.scale]
  split
  next fits =>
    have small : n < wordLimit := by omega
    rw [fit?_of_lt small, Option.bind_some, addScaled?_nanos, fit?_of_lt fits, Option.map_some,
      ofMillis]
  next large =>
    by_cases small : n < wordLimit
    · rw [fit?_of_lt small, Option.bind_some, addScaled?_nanos, fit?, if_neg large, Option.map_none]
    · rw [fit?, if_neg small, Option.bind_none]

/-- A whole number of milliseconds is read if its nanoseconds fit into 64 bits. -/
theorem read?_millis (n : Nat) :
    read? (toString n ++ "ms") = if n * 1000000 < wordLimit then some (ofMillis n) else none := by
  have characters : (toString n ++ "ms").toList = Nat.toDigits 10 n ++ ['m', 's'] :=
    Text.toList_toString_append n "ms"
  have other : toString n ++ "ms" ≠ "0" := by
    intro same
    have lengths := congrArg (·.toList.length) same
    rw [characters] at lengths
    simp at lengths
  have solid : (Nat.toDigits 10 n ++ ['m', 's']).dropWhile Text.isBlank =
      Nat.toDigits 10 n ++ ['m', 's'] := by
    obtain ⟨first, others, together⟩ : ∃ first others, Nat.toDigits 10 n = first :: others :=
      List.exists_cons_of_ne_nil Nat.toDigits_ne_nil
    have digits : Text.digits.all (!Text.isBlank ·) = true := by decide
    have opens := Text.forall_mem_toDigits digits n first (together ▸ List.mem_cons_self)
    rw [Bool.not_eq_true'] at opens
    rw [together, List.cons_append, List.dropWhile_cons, opens]
    rfl
  have terms (fuel : Nat) : terms? (fuel + 1) (Nat.toDigits 10 n ++ ['m', 's']) =
      some [⟨n, none, .millisecond⟩] := by
    rw [terms?, solid, term?_millis]
    rfl
  rw [read?, if_neg other, characters, ← addTerm?_millis]
  simp only [terms, Option.bind_some, List.foldlM_cons, List.foldlM_nil, bind_pure]

end Showcase.Duration
