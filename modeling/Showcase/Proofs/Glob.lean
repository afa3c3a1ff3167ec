import Mathlib.Data.List.Basic
import Mathlib.Data.List.Infix
import Showcase.Glob
import Showcase.Proofs.Disk.Paths

/-!
# Patterns for one name

A pattern without two stars in a row is read token by token, and its tokens do not depend on what
was read before (`Reads`, `reads_of_parseFrom`, `Reads.parseFrom_eq`).  If it has no slash either,
its tokens are `Flat`: none of them takes a slash, so the pattern matches single names only
(`Flat.run_slash`).

With two stars and a slash in front the pattern descends.  The search passes over a directory whose
name does not start with a point and stops at one whose name does (`Flat.run_anyDirs_slash`), and in
the last name it finds what the pattern itself finds (`Flat.run_anyDirs_matched_iff`).  So such a
pattern matches a path exactly if the pattern matches its last name and no directory before it is
hidden (`Flat.isMatch_anyDirs_iff`).
-/

namespace Showcase.Glob

/-! ## Reading patterns without directory wildcards -/

/-- Characters without two stars in a row are read as tokens. -/
inductive Reads : List Char → List Token → Prop where
  | nil : Reads [] []
  | anyChar {rest : List Char} {tokens : List Token} :
      Reads rest tokens → Reads ('?' :: rest) (.anyChar :: tokens)
  | anyRun {rest : List Char} {tokens : List Token} :
      rest.head? ≠ some '*' → Reads rest tokens → Reads ('*' :: rest) (.anyRun :: tokens)
  | set {rest after : List Char} {token : Token} {tokens : List Token} :
      set? rest = some (token, after) → Reads after tokens → Reads ('[' :: rest) (token :: tokens)
  | char {c : Char} {rest : List Char} {tokens : List Token} :
      c ≠ '?' → c ≠ '*' → c ≠ '[' → Reads rest tokens → Reads (c :: rest) (.char c :: tokens)

theorem suffix_of_set? {cs after : List Char} {token : Token}
    (read : set? cs = some (token, after)) : after <:+ cs := by
  unfold set? at read
  split at read
  next negated inside opened =>
    have inner : inside <:+ cs := by
      split at opened <;> cases opened
      · exact List.suffix_cons ..
      · exact List.suffix_rfl
    split at read
    next => cases read
    next first rest =>
      split at read
      next => cases read
      next closing behind stop =>
        cases read
        have last := List.dropWhile_suffix (l := rest) (· ≠ ']')
        rw [stop] at last
        exact (((List.suffix_cons ..).trans last).trans (List.suffix_cons ..)).trans inner

theorem within_or_except_of_set? {cs after : List Char} {token : Token}
    (read : set? cs = some (token, after)) :
    (∃ specs, token = .within specs) ∨ ∃ specs, token = .except specs := by
  unfold set? at read
  split at read
  next negated inside _ =>
    split at read
    next => cases read
    next =>
      split at read
      next => cases read
      next =>
        cases read
        cases negated with
        | true => exact Or.inr ⟨_, rfl⟩
        | false => exact Or.inl ⟨_, rfl⟩

/-- A pattern that is accepted and has no two stars in a row has been read token by token. -/
theorem reads_of_parseFrom {fuel position : Nat} {before : Option Char} {done tokens : List Token}
    {cs : List Char} (single : ¬ ['*', '*'] <:+: cs)
    (parsed : parseFrom fuel position before done cs = .ok tokens) :
    ∃ more, Reads cs more ∧ tokens = done.reverse ++ more := by
  have later {cs after : List Char} (inside : after <:+ cs) (single : ¬ ['*', '*'] <:+: cs) :
      ¬ ['*', '*'] <:+: after := fun found => single (found.trans inside.isInfix)
  fun_induction parseFrom fuel position before done cs with
  | case1 | case4 | case5 | case8 | case10 => cases parsed
  | case2 =>
      cases parsed
      exact ⟨[], .nil, (List.append_nil _).symm⟩
  | case3 fuel position before done rest induction =>
      obtain ⟨more, read, rfl⟩ := induction (later (List.suffix_cons ..) single) parsed
      exact ⟨_, .anyChar read, by simp⟩
  | case6 fuel position before done => exact absurd ⟨[], [], rfl⟩ single
  | case7 fuel position before done _ _ rest => exact absurd ⟨[], '/' :: rest, rfl⟩ single
  | case9 fuel position before done rest _ other induction =>
      obtain ⟨more, read, rfl⟩ := induction (later (List.suffix_cons ..) single) parsed
      have alone : rest.head? ≠ some '*' := fun starts =>
        have ⟨rest', same⟩ := List.head?_eq_some_iff.1 starts
        other rest' same
      exact ⟨_, .anyRun alone read, by simp⟩
  | case11 fuel position before done rest token after set induction =>
      have inside := (suffix_of_set? set).trans (List.suffix_cons '[' rest)
      obtain ⟨more, read, rfl⟩ := induction (later inside single) parsed
      exact ⟨_, .set set read, by simp⟩
  | case12 fuel position before done c rest one _ _ run set induction =>
      obtain ⟨more, read, rfl⟩ := induction (later (List.suffix_cons ..) single) parsed
      exact ⟨_, .char one run set read, by simp⟩

/-- What is read before characters without two stars in a row does not change their tokens. -/
theorem Reads.parseFrom_eq {cs : List Char} {more : List Token} (read : Reads cs more)
    {fuel : Nat} (enough : cs.length < fuel) (position : Nat) (before : Option Char)
    (done : List Token) : parseFrom fuel position before done cs = .ok (done.reverse ++ more) := by
  induction read generalizing fuel position before done with
  | nil =>
      obtain ⟨fuel, rfl⟩ := Nat.exists_eq_add_one.2 enough
      rw [parseFrom, List.append_nil]
  | anyChar _ induction =>
      obtain ⟨fuel, rfl⟩ := Nat.exists_eq_add_one.2 (Nat.zero_lt_of_lt enough)
      rw [parseFrom, induction (Nat.lt_of_succ_lt_succ enough)]
      simp
  | @anyRun rest _ alone _ induction =>
      obtain ⟨fuel, rfl⟩ := Nat.exists_eq_add_one.2 (Nat.zero_lt_of_lt enough)
      have other (rest' : List Char) : rest ≠ '*' :: rest' := by
        rintro rfl
        exact alone rfl
      rw [parseFrom, induction (Nat.lt_of_succ_lt_succ enough)]
      · simp
      · exact fun rest' => other ('*' :: rest')
      · exact other
  | set set _ induction =>
      obtain ⟨fuel, rfl⟩ := Nat.exists_eq_add_one.2 (Nat.zero_lt_of_lt enough)
      have shorter := (suffix_of_set? set).length_le
      rw [parseFrom, set]
      dsimp only
      rw [induction (Nat.lt_of_le_of_lt shorter (Nat.lt_of_succ_lt_succ enough))]
      simp
  | char one run set _ induction =>
      obtain ⟨fuel, rfl⟩ := Nat.exists_eq_add_one.2 (Nat.zero_lt_of_lt enough)
      rw [parseFrom, induction (Nat.lt_of_succ_lt_succ enough)]
      · simp
      · exact one
      · exact fun _ star => absurd star run
      · exact fun _ star => absurd star run
      · exact run
      · exact set

/-! ## Tokens that take no slash -/

/-- Tokens inside one name. -/
def Flat (tokens : List Token) : Prop := .anyDirs ∉ tokens ∧ .char '/' ∉ tokens

theorem Reads.flat {cs : List Char} {tokens : List Token} (read : Reads cs tokens)
    (free : '/' ∉ cs) : Flat tokens := by
  induction read with
  | nil => exact ⟨List.not_mem_nil, List.not_mem_nil⟩
  | anyChar _ induction =>
      obtain ⟨noDirs, noSlash⟩ := induction fun slash => free (List.mem_cons_of_mem _ slash)
      exact ⟨by simpa using noDirs, by simpa using noSlash⟩
  | anyRun _ _ induction =>
      obtain ⟨noDirs, noSlash⟩ := induction fun slash => free (List.mem_cons_of_mem _ slash)
      exact ⟨by simpa using noDirs, by simpa using noSlash⟩
  | set set _ induction =>
      obtain ⟨noDirs, noSlash⟩ := induction fun slash =>
        free (List.mem_cons_of_mem _ ((suffix_of_set? set).subset slash))
      rcases within_or_except_of_set? set with ⟨specs, rfl⟩ | ⟨specs, rfl⟩
      · exact ⟨by simpa using noDirs, by simpa using noSlash⟩
      · exact ⟨by simpa using noDirs, by simpa using noSlash⟩
  | char _ _ _ _ induction =>
      rw [List.mem_cons, not_or] at free
      obtain ⟨noDirs, noSlash⟩ := induction free.2
      exact ⟨by simpa using noDirs, by simpa using ⟨free.1, noSlash⟩⟩

theorem Reads.ne_nil {cs : List Char} {tokens : List Token} (read : Reads cs tokens)
    (filled : cs ≠ []) : tokens ≠ [] := by
  cases read with
  | nil => exact absurd rfl filled
  | anyChar | anyRun | set | char => exact List.cons_ne_nil _ _

section

variable {tokens : List Token}

theorem run_single {token : Token} (other : token ≠ .anyRun) (other' : token ≠ .anyDirs)
    (atStart : Bool) (cs : List Char) :
    run (token :: tokens) atStart cs =
      match cs with
      | [] => .exhausted
      | c :: cs => if token.takes atStart c then run tokens (c == '/') cs else .stuck := by
  cases token with
  | anyRun => exact absurd rfl other
  | anyDirs => exact absurd rfl other'
  | char | anyChar | within | except => cases cs <;> rfl

theorem run_star_of_stuck {token : Token} (star : token = .anyRun ∨ token = .anyDirs)
    {atStart : Bool} {cs : List Char} (stuck : run tokens atStart cs = .stuck) :
    run (token :: tokens) atStart cs = spread (token == .anyDirs) (run tokens) atStart cs := by
  rcases star with rfl | rfl <;> simp only [run, stuck]

theorem run_star_of_ne_stuck {token : Token} (star : token = .anyRun ∨ token = .anyDirs)
    {atStart : Bool} {cs : List Char} (settled : run tokens atStart cs ≠ .stuck) :
    run (token :: tokens) atStart cs = run tokens atStart cs := by
  rcases star with rfl | rfl <;> cases ends : run tokens atStart cs <;> simp_all [run]

theorem Flat.tail {token : Token} (flat : Flat (token :: tokens)) : Flat tokens :=
  ⟨fun member => flat.1 (List.mem_cons_of_mem _ member),
    fun member => flat.2 (List.mem_cons_of_mem _ member)⟩

theorem Flat.takes_slash {token : Token} (flat : Flat (token :: tokens)) (atStart : Bool) :
    token.takes atStart '/' = false := by
  cases token with
  | char c =>
      have other : '/' ≠ c := by
        rintro rfl
        exact flat.2 List.mem_cons_self
      simpa [Token.takes] using other
  | anyChar | anyRun | anyDirs | within | except => simp [Token.takes]

/-- A run is stuck if what follows it is stuck wherever the run may end. -/
theorem spread_eq_stuck {next : Bool → List Char → Outcome} {rest : List Char}
    (stuck : ∀ atStart name, next atStart (name ++ '/' :: rest) = .stuck) (atStart : Bool)
    (name : List Char) : spread false next atStart (name ++ '/' :: rest) = .stuck := by
  induction name generalizing atStart with
  | nil => simp [spread]
  | cons c name induction => simp [spread, stuck, induction]

/-- Tokens inside one name are stuck at a slash. -/
theorem Flat.run_slash (flat : Flat tokens) (atStart : Bool) (name rest : List Char) :
    run tokens atStart (name ++ '/' :: rest) = .stuck := by
  induction tokens generalizing atStart name with
  | nil => cases name <;> rfl
  | cons token tokens induction =>
      by_cases star : token = .anyRun
      · subst star
        rw [run_star_of_stuck (Or.inl rfl) (induction flat.tail atStart name)]
        exact spread_eq_stuck (induction flat.tail) atStart name
      · have single : token ≠ .anyDirs := fun dirs => flat.1 (dirs ▸ List.mem_cons_self)
        rw [run_single star single]
        cases name with
        | nil => simp [flat.takes_slash]
        | cons c name => simp [induction flat.tail]

/-- A pattern for one name matches no path of several names. -/
theorem Flat.slash_notMem (flat : Flat tokens) {path : String}
    (matched : isMatch tokens path = true) : '/' ∉ path.toList := by
  intro slash
  obtain ⟨name, rest, split⟩ := List.append_of_mem slash
  rw [isMatch, split, flat.run_slash] at matched
  cases matched

/-! ## Descending -/

/-- The search goes on after a directory in whose name it is. -/
theorem spread_true_slash {name : List Char} (free : '/' ∉ name) (rest : List Char) :
    spread true (run tokens) false (name ++ '/' :: rest) =
      run (.anyDirs :: tokens) true rest := by
  induction name with
  | nil => rfl
  | cons c name induction =>
      rw [List.mem_cons, not_or] at free
      have other : (c == '/') = false := by simpa using Ne.symm free.1
      simp [spread, other, induction free.2]

/-- The search ends after the last name. -/
theorem spread_true_last {next : Bool → List Char → Outcome} {name : List Char}
    (free : '/' ∉ name) : spread true next false name = next false [] := by
  induction name with
  | nil => rfl
  | cons c name induction =>
      rw [List.mem_cons, not_or] at free
      have other : (c == '/') = false := by simpa using Ne.symm free.1
      simp [spread, other, induction free.2]

/-- The search passes over a directory that is not hidden. -/
theorem Flat.run_anyDirs_slash (flat : Flat tokens) {c : Char} {name : List Char}
    (free : '/' ∉ c :: name) (rest : List Char) :
    run (.anyDirs :: tokens) true (c :: name ++ '/' :: rest) =
      if c = '.' then .stuck else run (.anyDirs :: tokens) true rest := by
  have whole : run (.anyDirs :: tokens) true (c :: name ++ '/' :: rest) =
      spread true (run tokens) true (c :: (name ++ '/' :: rest)) :=
    run_star_of_stuck (Or.inr rfl) (flat.run_slash true (c :: name) rest)
  rw [List.mem_cons, not_or] at free
  have other : (c == '/') = false := by simpa using Ne.symm free.1
  rw [whole, ← spread_true_slash free.2]
  simp [spread, other]

/-- A run at the end of a pattern takes the rest of a name that is not hidden. -/
theorem spread_false_end {atStart : Bool} {name : List Char} (free : '/' ∉ name)
    (shown : atStart = true → name.head? ≠ some '.') :
    spread false (run []) atStart name = .matched := by
  induction name generalizing atStart with
  | nil => rfl
  | cons c name induction =>
      rw [List.mem_cons, not_or] at free
      have other : (c == '/') = false := by simpa using Ne.symm free.1
      have point : (atStart && c == '.') = false := by
        cases atStart with
        | false => rfl
        | true => simpa using shown
      rw [spread, point, other]
      cases name with
      | nil => rfl
      | cons next name =>
          have further : spread false (run []) false (next :: name) = .matched :=
            induction free.2 (by simp)
          exact further

/-- A pattern that matches no characters at all matches every name that is not hidden. -/
theorem Flat.run_of_matched_nil (flat : Flat tokens) (filled : tokens ≠ []) {start : Bool}
    (empty : run tokens start [] = .matched) {atStart : Bool} {name : List Char}
    (free : '/' ∉ name) (shown : atStart = true → name.head? ≠ some '.') :
    run tokens atStart name = .matched := by
  induction tokens with
  | nil => exact absurd rfl filled
  | cons token tokens induction =>
      obtain rfl : token = .anyRun := by
        by_contra other
        rw [run_single other fun dirs => flat.1 (dirs ▸ List.mem_cons_self)] at empty
        cases empty
      have others : run tokens start [] = .matched := by
        by_cases stuck : run tokens start [] = .stuck
        · rw [run_star_of_stuck (Or.inl rfl) stuck, spread, stuck] at empty
          cases empty
        · rwa [run_star_of_ne_stuck (Or.inl rfl) stuck] at empty
      by_cases stuck : run tokens atStart name = .stuck
      · rw [run_star_of_stuck (Or.inl rfl) stuck]
        cases tokens with
        | nil => exact spread_false_end free shown
        | cons token tokens =>
            rw [induction flat.tail (List.cons_ne_nil _ _) others] at stuck
            cases stuck
      · rw [run_star_of_ne_stuck (Or.inl rfl) stuck]
        cases tokens with
        | nil =>
            cases name with
            | nil => rfl
            | cons c name => exact absurd rfl stuck
        | cons token tokens => exact induction flat.tail (List.cons_ne_nil _ _) others

/-- In the last name the search finds what the pattern itself finds. -/
theorem Flat.run_anyDirs_matched_iff (flat : Flat tokens) (filled : tokens ≠ []) {name : List Char}
    (free : '/' ∉ name) :
    run (.anyDirs :: tokens) true name = .matched ↔ run tokens true name = .matched := by
  by_cases stuck : run tokens true name = .stuck
  · rw [run_star_of_stuck (Or.inr rfl) stuck, stuck]
    refine iff_of_false (fun matched => ?_) (by decide)
    cases name with
    | nil =>
        have same : run tokens true [] = .matched := matched
        cases stuck.symm.trans same
    | cons c name =>
        have shown : c ≠ '.' := by
          rintro rfl
          simp [spread] at matched
        have empty : run tokens false [] = .matched := by
          rw [List.mem_cons, not_or] at free
          have other : (c == '/') = false := by simpa using Ne.symm free.1
          simpa [spread, shown, other, spread_true_last free.2] using matched
        have whole : run tokens true (c :: name) = .matched :=
          flat.run_of_matched_nil filled empty free (by simpa using shown)
        cases stuck.symm.trans whole
  · rw [run_star_of_ne_stuck (Or.inr rfl) stuck]

theorem Flat.isMatch_anyDirs_of_free (flat : Flat tokens) (filled : tokens ≠ []) {path : String}
    (free : '/' ∉ path.toList) :
    isMatch (.anyDirs :: tokens) path = true ↔ isMatch tokens path = true := by
  simp only [isMatch, beq_iff_eq, flat.run_anyDirs_matched_iff filled free]

/-- A pattern that descends matches a path if the pattern matches the last name and no directory
before it is hidden. -/
theorem Flat.isMatch_anyDirs_iff (flat : Flat tokens) (filled : tokens ≠ []) {below : List String}
    (proper : ∀ name ∈ below, Disk.Path.IsName name) :
    isMatch (.anyDirs :: tokens) ("/".intercalate below) = true ↔
      isMatch tokens (below.getLastD "") = true ∧
        ∀ name ∈ below.dropLast, name.toList.head? ≠ some '.' := by
  simp only [isMatch, beq_iff_eq]
  induction below with
  | nil => simp [flat.run_anyDirs_matched_iff filled]
  | cons name below induction =>
      rw [List.forall_mem_cons] at proper
      obtain ⟨first, others⟩ := proper
      cases below with
      | nil =>
          rw [String.intercalate_singleton, flat.run_anyDirs_matched_iff filled first.2.1]
          simp
      | cons next below =>
          obtain ⟨c, cs, characters⟩ : ∃ c cs, name.toList = c :: cs :=
            List.exists_cons_of_ne_nil (by simpa using first.1)
          have split : ("/".intercalate (name :: next :: below)).toList =
              c :: cs ++ '/' :: ("/".intercalate (next :: below)).toList := by
            rw [String.intercalate_cons_cons, ← characters]
            simp
          have free := first.2.1
          rw [characters] at free
          rw [split, flat.run_anyDirs_slash free, List.dropLast_cons_cons, List.forall_mem_cons,
            characters]
          by_cases hidden : c = '.'
          · simp [hidden]
          · simpa [hidden] using induction others

end

/-! ## Patterns in front of which directories may stand -/

/-- A pattern without slashes and two stars in a row is for one name, and two stars and a slash in
front of it make a pattern that descends. -/
theorem parse_of_flat {pattern : String} (filled : pattern ≠ "") (free : '/' ∉ pattern.toList)
    (single : ¬ ['*', '*'] <:+: pattern.toList) {tokens : List Token}
    (valid : parse pattern = .ok tokens) :
    Flat tokens ∧ tokens ≠ [] ∧ parse ("**/" ++ pattern) = .ok (.anyDirs :: tokens) := by
  obtain ⟨more, read, rfl⟩ := reads_of_parseFrom single valid
  refine ⟨read.flat free, read.ne_nil (by simpa using filled), ?_⟩
  have front : ("**/" ++ pattern).toList = '*' :: '*' :: '/' :: pattern.toList := by simp
  have enough : pattern.toList.length < pattern.toList.length + 3 := by omega
  have goesOn := read.parseFrom_eq enough 3 (some '/') [.anyDirs]
  rw [parse, front]
  exact goesOn

end Showcase.Glob
