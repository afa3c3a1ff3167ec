import Mathlib.Data.List.Forall2
import Showcase.Text.Lowercase

/-!
# Lowering a part of a text

A capital sigma is lowered by what stands around it, so a part of a text need not read the same
when it is lowered alone and when the text is lowered whole.

*Stretches.*  `lowerWithin` lowers a stretch between the texts before and after it, and a lowered
text is made of its lowered stretches (`lowerChars_append_append`).  Two surroundings give one and
the same lowered stretch exactly when every capital sigma of it ends a word in both or in neither
(`lowerWithin_eq_iff`).

*Settled stretches.*  A stretch is settled when it says itself of each of its capital sigmas
whether it ends a word.  It is then lowered alike everywhere (`Settled.sigmasAgree`).  Any other
stretch is lowered to another text after the letter `A` or before it, and that text does not hold
the stretch lowered alone at any place (`settled_of_occurs`): a surrounding that takes final forms
away leaves too few of them, and one that adds some leaves too few of the other form.

*Letter case.*  Lowering the letters from `A` to `Z` first changes nothing
(`lowerChars_map_toLower`), since none of them is passed over and each is cased like its lowercase
form.
-/

namespace Showcase.Text

/-! ## Surroundings of a capital sigma -/

/-- The nearest character that is not case-ignorable. -/
def nearest? (cs : List Char) : Option Char := cs.find? fun c => !isCaseIgnorable c

@[simp] theorem nearest?_nil : nearest? [] = none := rfl

@[simp] theorem nearest?_append (cs ds : List Char) :
    nearest? (cs ++ ds) = (nearest? cs).or (nearest? ds) :=
  List.find?_append

theorem meetsCased_eq (cs : List Char) : meetsCased cs = (nearest? cs).any isCased := by
  induction cs with
  | nil => rfl
  | cons c cs induction =>
      cases ignorable : isCaseIgnorable c with
      | true => simpa [meetsCased, nearest?, ignorable] using induction
      | false => simp [meetsCased, nearest?, ignorable]

/-- Whether a capital sigma ends a word between what stands before it, nearest first, and what
stands after it. -/
def endsWord (before after : List Char) : Bool := meetsCased before && !meetsCased after

theorem endsWord_eq (before after : List Char) :
    endsWord before after = ((nearest? before).any isCased && !(nearest? after).any isCased) := by
  simp only [endsWord, meetsCased_eq]

/-- A property of what stands before, nearest first, and after each capital sigma of a stretch. -/
def AtSigmas (P : List Char → List Char → Prop) (cs : List Char) : Prop :=
  ∀ before after, cs = before ++ 'Σ' :: after → P before.reverse after

theorem atSigmas_nil (P : List Char → List Char → Prop) : AtSigmas P [] := by
  intro before after split
  simp at split

theorem atSigmas_cons {P : List Char → List Char → Prop} {c : Char} {cs : List Char} :
    AtSigmas P (c :: cs) ↔
      (c = 'Σ' → P [] cs) ∧ AtSigmas (fun before after => P (before ++ [c]) after) cs := by
  constructor
  · intro all
    constructor
    · rintro rfl
      exact all [] cs rfl
    · intro before after split
      simpa using all (c :: before) after (by simp [split])
  · rintro ⟨first, rest⟩ before after split
    cases before with
    | nil =>
        obtain ⟨rfl, rfl⟩ := List.cons.inj split
        exact first rfl
    | cons head before =>
        obtain ⟨rfl, remaining⟩ := List.cons.inj split
        simpa using rest before after remaining

theorem AtSigmas.imp {P Q : List Char → List Char → Prop} {cs : List Char}
    (holds : AtSigmas P cs) (implies : ∀ before after, P before after → Q before after) :
    AtSigmas Q cs :=
  fun before after split => implies _ _ (holds before after split)

/-! ## A character in two surroundings -/

theorem lowerBetween_of_ne {c : Char} (other : c ≠ 'Σ') (before after : List Char) :
    lowerBetween before c after = lowerBetween [] c [] := by
  simp [lowerBetween, other]

theorem lowerBetween_sigma (before after : List Char) :
    lowerBetween before 'Σ' after = [if endsWord before after then 'ς' else 'σ'] := rfl

theorem length_lowerBetween (c : Char) (before after before' after' : List Char) :
    (lowerBetween before c after).length = (lowerBetween before' c after').length := by
  by_cases sigma : c = 'Σ'
  · subst sigma
    rfl
  · rw [lowerBetween_of_ne sigma, lowerBetween_of_ne sigma before']

theorem lowerBetween_eq_iff {c : Char} {before after before' after' : List Char} :
    lowerBetween before c after = lowerBetween before' c after' ↔
      (c = 'Σ' → endsWord before after = endsWord before' after') := by
  by_cases sigma : c = 'Σ'
  · subst sigma
    simp only [lowerBetween_sigma, true_imp_iff]
    cases endsWord before after <;> cases endsWord before' after' <;> decide
  · simp [lowerBetween_of_ne sigma before, lowerBetween_of_ne sigma before', sigma]

/-! ## A stretch between others -/

/-- Lowers a stretch that stands after the characters of `before`, nearest first, and before those
of `after`. -/
def lowerWithin (before : List Char) : List Char → List Char → List Char
  | [], _ => []
  | c :: cs, after => lowerBetween before c (cs ++ after) ++ lowerWithin (c :: before) cs after

theorem lowerAfter_append (before cs after : List Char) :
    lowerAfter before (cs ++ after) =
      lowerWithin before cs after ++ lowerAfter (cs.reverse ++ before) after := by
  induction cs generalizing before with
  | nil => rfl
  | cons c cs induction => simp [lowerAfter, lowerWithin, induction]

theorem lowerChars_eq_lowerWithin (cs : List Char) : lowerChars cs = lowerWithin [] cs [] := by
  simpa [lowerChars, lowerAfter] using lowerAfter_append [] cs []

/-- A lowered text is made of its lowered stretches. -/
theorem lowerChars_append_append (pre cs post : List Char) :
    lowerChars (pre ++ cs ++ post) =
      lowerWithin [] pre (cs ++ post) ++ lowerWithin pre.reverse cs post ++
        lowerAfter (cs.reverse ++ pre.reverse) post := by
  simp only [lowerChars, List.append_assoc, lowerAfter_append, List.append_nil]

/-- A stretch is lowered alike in two surroundings exactly when its capital sigmas are. -/
theorem lowerWithin_eq_iff {before before' cs after after' : List Char} :
    lowerWithin before cs after = lowerWithin before' cs after' ↔
      AtSigmas (fun near far => endsWord (near ++ before) (far ++ after) =
        endsWord (near ++ before') (far ++ after')) cs := by
  induction cs generalizing before before' with
  | nil => simp [lowerWithin, atSigmas_nil]
  | cons c cs induction =>
      -- A character is lowered to equally many in all surroundings, so the equation comes apart.
      have apart : lowerWithin before (c :: cs) after = lowerWithin before' (c :: cs) after' ↔
          lowerBetween before c (cs ++ after) = lowerBetween before' c (cs ++ after') ∧
            lowerWithin (c :: before) cs after = lowerWithin (c :: before') cs after' := by
        constructor
        · intro same
          exact List.append_inj same (length_lowerBetween ..)
        · rintro ⟨first, rest⟩
          rw [lowerWithin, lowerWithin, first, rest]
      rw [apart, lowerBetween_eq_iff, induction, atSigmas_cons]
      simp

/-! ## Final forms gained and lost -/

/-- The same character, or a final sigma in place of another. -/
def Sharpens (c d : Char) : Prop := c = d ∨ c = 'σ' ∧ d = 'ς'

/-- Where each sigma that ends a word still does in other surroundings, a stretch only gains final
forms. -/
theorem forall₂_sharpens_lowerWithin {before before' cs after after' : List Char}
    (kept : AtSigmas (fun near far => endsWord (near ++ before) (far ++ after) = true →
      endsWord (near ++ before') (far ++ after') = true) cs) :
    List.Forall₂ Sharpens (lowerWithin before cs after) (lowerWithin before' cs after') := by
  induction cs generalizing before before' with
  | nil => exact .nil
  | cons c cs induction =>
      obtain ⟨first, rest⟩ := atSigmas_cons.1 kept
      refine List.rel_append ?_ (induction (rest.imp fun near far => by simp))
      by_cases sigma : c = 'Σ'
      · subst sigma
        have gained := first rfl
        simp only [List.nil_append] at gained
        refine .cons ?_ .nil
        rw [← endsWord, ← endsWord]
        cases here : endsWord before (cs ++ after) with
        | false => cases endsWord before' (cs ++ after') <;> simp [Sharpens]
        | true => simp [Sharpens, gained here]
      · rw [lowerBetween_of_ne sigma before, lowerBetween_of_ne sigma before', List.forall₂_same]
        exact fun _ _ => Or.inl rfl

/-- A text that only gains final forms has more of them and fewer of the others, unless it stays
the same. -/
theorem count_sharpens {cs ds : List Char} (sharpens : List.Forall₂ Sharpens cs ds) :
    cs = ds ∨ cs.count 'ς' < ds.count 'ς' ∧ ds.count 'σ' < cs.count 'σ' := by
  induction sharpens with
  | nil => exact Or.inl rfl
  | cons first _ induction =>
      rcases first with rfl | ⟨rfl, rfl⟩
      · rcases induction with rfl | ⟨more, fewer⟩
        · exact Or.inl rfl
        · simp only [List.count_cons]
          omega
      · right
        rw [List.count_cons_of_ne (by decide), List.count_cons_self,
          List.count_cons_of_ne (by decide), List.count_cons_self]
        rcases induction with rfl | ⟨more, fewer⟩
        · exact ⟨Nat.lt_succ_self _, Nat.lt_succ_self _⟩
        · exact ⟨Nat.lt_succ_of_lt more, Nat.lt_succ_of_lt fewer⟩

/-! ## Settled stretches -/

/-- Every capital sigma of a stretch ends a word between two texts exactly when it does so in the
stretch alone. -/
def SigmasAgree (pre cs post : List Char) : Prop :=
  AtSigmas (fun before after =>
    endsWord (before ++ pre.reverse) (after ++ post) = endsWord before after) cs

theorem sigmasAgree_iff {pre cs post : List Char} :
    SigmasAgree pre cs post ↔ lowerWithin pre.reverse cs post = lowerChars cs := by
  rw [lowerChars_eq_lowerWithin, lowerWithin_eq_iff]
  simp [SigmasAgree]

/-- A stretch whose sigmas agree is found, lowered, where it stood. -/
theorem SigmasAgree.occurs {pre cs post : List Char} (agree : SigmasAgree pre cs post) :
    lowerChars cs <:+: lowerChars (pre ++ cs ++ post) := by
  rw [lowerChars_append_append, sigmasAgree_iff.1 agree]
  exact List.infix_append ..

/-- A stretch says itself of each of its capital sigmas whether it ends a word: no other text can
make it do so after an uncased character or before a cased one, and none can change anything where
the nearest characters on both sides are in the stretch. -/
def Settled (cs : List Char) : Prop :=
  AtSigmas (fun before after =>
    (nearest? before).any (!isCased ·) = true ∨ (nearest? after).any isCased = true ∨
      (nearest? before).isSome = true ∧ (nearest? after).isSome = true) cs

theorem Settled.sigmasAgree {cs : List Char} (settled : Settled cs) (pre post : List Char) :
    SigmasAgree pre cs post := by
  refine settled.imp fun before after decided => ?_
  simp only [endsWord_eq, nearest?_append]
  cases left : nearest? before with
  | none =>
      cases right : nearest? after with
      | none => simp [left, right] at decided
      | some after =>
          have cased : isCased after = true := by simpa [left, right] using decided
          simp [cased]
  | some before =>
      cases right : nearest? after with
      | none =>
          have uncased : isCased before = false := by simpa [left, right] using decided
          simp [uncased]
      | some after => simp

theorem nearest?_capital : nearest? ['A'] = some 'A' := by decide +kernel

theorem isCased_capital : isCased 'A' = true := by decide +kernel

/-- A cased letter after a stretch only takes final forms away.  If the stretch is still found,
none is missing. -/
theorem sigmasAgree_of_followed {cs : List Char}
    (followed : lowerChars cs <:+: lowerChars (cs ++ ['A'])) : SigmasAgree [] cs ['A'] := by
  have loses : List.Forall₂ Sharpens (lowerWithin [] cs ['A']) (lowerChars cs) := by
    rw [lowerChars_eq_lowerWithin]
    refine forall₂_sharpens_lowerWithin fun before after _ => ?_
    simp only [endsWord_eq, nearest?_append, nearest?_capital]
    cases nearest? after <;> simp [isCased_capital]
  have whole : lowerChars (cs ++ ['A']) = lowerWithin [] cs ['A'] ++ ['a'] :=
    lowerAfter_append [] cs ['A']
  rcases count_sharpens loses with same | ⟨fewer, _⟩
  · exact sigmasAgree_iff.2 same
  · have enough := followed.count_le 'ς'
    rw [whole, List.count_append, List.count_singleton] at enough
    exact absurd fewer (Nat.not_lt.2 enough)

/-- A cased letter before a stretch only adds final forms.  If the stretch is still found, none of
the other forms is missing. -/
theorem sigmasAgree_of_preceded {cs : List Char}
    (preceded : lowerChars cs <:+: lowerChars ('A' :: cs)) : SigmasAgree ['A'] cs [] := by
  have gains : List.Forall₂ Sharpens (lowerChars cs) (lowerWithin ['A'] cs []) := by
    rw [lowerChars_eq_lowerWithin]
    refine forall₂_sharpens_lowerWithin fun before after _ => ?_
    simp only [endsWord_eq, nearest?_append, nearest?_capital]
    cases nearest? before.reverse <;> simp [isCased_capital]
  have whole : lowerChars ('A' :: cs) = 'a' :: lowerWithin ['A'] cs [] := by
    rw [lowerChars_eq_lowerWithin]
    rfl
  rcases count_sharpens gains with same | ⟨_, fewer⟩
  · exact sigmasAgree_iff.2 same.symm
  · have enough := preceded.count_le 'σ'
    rw [whole, List.count_cons_of_ne (by decide)] at enough
    exact absurd fewer (Nat.not_lt.2 enough)

/-- A stretch that is found, lowered, before the letter `A` and after it is settled. -/
theorem settled_of_occurs {cs : List Char}
    (followed : lowerChars cs <:+: lowerChars (cs ++ ['A']))
    (preceded : lowerChars cs <:+: lowerChars ('A' :: cs)) : Settled cs := by
  intro before after split
  have ahead : endsWord (before.reverse ++ []) (after ++ ['A']) = endsWord before.reverse after :=
    sigmasAgree_of_followed followed before after split
  have behind : endsWord (before.reverse ++ ['A']) (after ++ []) = endsWord before.reverse after :=
    sigmasAgree_of_preceded preceded before after split
  simp only [endsWord_eq, nearest?_append, nearest?_capital, nearest?_nil, Option.or_none]
    at ahead behind
  cases left : nearest? before.reverse with
  | none =>
      have cased : (nearest? after).any isCased = true := by
        simpa [left, isCased_capital] using behind
      exact Or.inr (Or.inl cased)
  | some near =>
      cases right : nearest? after with
      | none =>
          have uncased : isCased near = false := by
            simpa [left, right, isCased_capital] using ahead
          exact Or.inl (by simp [uncased])
      | some far => exact Or.inr (Or.inr ⟨rfl, rfl⟩)

/-! ## Letters from `A` to `Z` -/

/-- The capitals that have a lowercase form among the letters from `a` to `z`. -/
def capitals : List Char := (List.range 26).map fun n => Char.ofNat ('A'.toNat + n)

theorem toLower_eq_self_or_mem (c : Char) : c.toLower = c ∨ c ∈ capitals := by
  by_cases capital : 'A' ≤ c ∧ c ≤ 'Z'
  · right
    have low : 65 ≤ c.toNat := capital.1
    have high : c.toNat ≤ 90 := capital.2
    refine List.mem_map.2 ⟨c.toNat - 65, List.mem_range.2 (by omega), ?_⟩
    have code : 'A'.toNat + (c.toNat - 65) = c.toNat := by
      show 65 + (c.toNat - 65) = c.toNat
      omega
    rw [code, Char.ofNat_toNat]
  · left
    exact dif_neg capital

/-- What tells no capital from its lowercase form tells no character from it. -/
theorem apply_toLower {α : Type} [DecidableEq α] {f : Char → α}
    (alike : capitals.all (fun c => f c.toLower = f c) = true) (c : Char) : f c.toLower = f c := by
  rcases toLower_eq_self_or_mem c with same | capital
  · rw [same]
  · exact of_decide_eq_true (List.all_eq_true.1 alike c capital)

theorem isCased_toLower (c : Char) : isCased c.toLower = isCased c :=
  apply_toLower (by decide +kernel) c

/-- No letter from `A` to `Z` or from `a` to `z` is passed over. -/
theorem isCaseIgnorable_of_letter {c : Char}
    (letter : 65 ≤ c.toNat ∧ c.toNat ≤ 90 ∨ 97 ≤ c.toNat ∧ c.toNat ≤ 122) :
    isCaseIgnorable c = false := by
  have apart : ∀ range ∈ caseIgnorableRanges,
      (range.2 < 65 ∨ 90 < range.1) ∧ (range.2 < 97 ∨ 122 < range.1) := by decide +kernel
  rw [Bool.eq_false_iff]
  intro ignorable
  obtain ⟨range, member, low, high⟩ := Ranges.has_iff.1 ignorable
  have outside := apart range member
  omega

theorem isCaseIgnorable_toLower (c : Char) : isCaseIgnorable c.toLower = isCaseIgnorable c := by
  have letters : capitals.all (fun c => (65 ≤ c.toNat ∧ c.toNat ≤ 90) ∧
      97 ≤ c.toLower.toNat ∧ c.toLower.toNat ≤ 122) = true := by decide +kernel
  rcases toLower_eq_self_or_mem c with same | capital
  · rw [same]
  · have letter := of_decide_eq_true (List.all_eq_true.1 letters c capital)
    rw [isCaseIgnorable_of_letter (Or.inl letter.1), isCaseIgnorable_of_letter (Or.inr letter.2)]

theorem toLower_eq_sigma_iff {c : Char} : c.toLower = 'Σ' ↔ c = 'Σ' := by
  simpa using apply_toLower (f := fun c => decide (c = 'Σ')) (by decide +kernel) c

theorem meetsCased_map_toLower (cs : List Char) :
    meetsCased (cs.map Char.toLower) = meetsCased cs := by
  have near : nearest? (cs.map Char.toLower) = (nearest? cs).map Char.toLower := by
    simp only [nearest?, List.find?_map, Function.comp_def, isCaseIgnorable_toLower]
  rw [meetsCased_eq, meetsCased_eq, near]
  cases nearest? cs <;> simp [isCased_toLower]

theorem lowerBetween_map_toLower (before after : List Char) (c : Char) :
    lowerBetween (before.map Char.toLower) c.toLower (after.map Char.toLower) =
      lowerBetween before c after := by
  by_cases sigma : c = 'Σ'
  · subst sigma
    refine lowerBetween_eq_iff.2 fun _ => ?_
    simp only [endsWord, meetsCased_map_toLower]
  · rw [lowerBetween_of_ne sigma, lowerBetween_of_ne (mt toLower_eq_sigma_iff.1 sigma)]
    exact apply_toLower (f := fun c => lowerBetween [] c []) (by decide +kernel) c

theorem lowerAfter_map_toLower (before cs : List Char) :
    lowerAfter (before.map Char.toLower) (cs.map Char.toLower) = lowerAfter before cs := by
  induction cs generalizing before with
  | nil => rfl
  | cons c cs induction =>
      rw [List.map_cons, lowerAfter, lowerAfter, lowerBetween_map_toLower, ← List.map_cons,
        induction]

/-- Lowering the letters from `A` to `Z` beforehand changes nothing. -/
theorem lowerChars_map_toLower (cs : List Char) :
    lowerChars (cs.map Char.toLower) = lowerChars cs :=
  lowerAfter_map_toLower [] cs

end Showcase.Text
