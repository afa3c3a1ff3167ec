import Mathlib.Data.List.TakeWhile
import Showcase.Text.Blank
import Showcase.Text.Infix

/-!
# Blank texts and texts inside others

Two tests that run on characters, and what they decide.  A text is blank exactly when nothing is
left of it once the blanks at its ends are taken off (`isBlankText_iff`).  One text occurs in
another exactly when it is a contiguous part of it (`occursIn_iff`): the places that are not tried
are those where the rest of the text is too short.
-/

namespace Showcase.Text

/-! ## Blanks -/

theorem trim_eq_nil_iff {cs : List Char} : trim cs = [] ↔ ∀ c ∈ cs, isBlank c = true := by
  rw [trim, List.reverse_eq_nil_iff, List.dropWhile_eq_nil_iff]
  simp only [List.mem_reverse]
  constructor
  · intro blank c member
    rw [← List.takeWhile_append_dropWhile (p := isBlank) (l := cs), List.mem_append] at member
    rcases member with leading | rest
    · exact List.mem_takeWhile_imp leading
    · exact blank c rest
  · intro blank c member
    exact blank c ((List.dropWhile_sublist isBlank).mem member)

theorem isBlankText_iff {s : String} : isBlankText s = true ↔ trim s.toList = [] := by
  rw [trim_eq_nil_iff, isBlankText, List.all_eq_true]

/-! ## Parts -/

theorem startsWithin_iff {needle hay : List Char} {places : Nat} :
    startsWithin needle places hay = true ↔ ∃ n < places, needle <+: hay.drop n := by
  induction places generalizing hay with
  | zero => simp [startsWithin]
  | succ places induction =>
      rw [startsWithin, Bool.or_eq_true, List.isPrefixOf_iff_prefix, induction]
      constructor
      · rintro (here | ⟨n, within, later⟩)
        · exact ⟨0, Nat.succ_pos places, here⟩
        · exact ⟨n + 1, Nat.succ_lt_succ within, by rwa [← List.drop_tail]⟩
      · rintro ⟨n, within, there⟩
        cases n with
        | zero => exact Or.inl there
        | succ n => exact Or.inr ⟨n, Nat.lt_of_succ_lt_succ within, by rwa [List.drop_tail]⟩

theorem occursIn_iff {needle hay : List Char} :
    occursIn needle hay = true ↔ needle <:+: hay := by
  rw [occursIn, startsWithin_iff]
  constructor
  · rintro ⟨n, _, there⟩
    exact there.isInfix.trans (List.drop_suffix n hay).isInfix
  · rintro ⟨pre, post, rfl⟩
    refine ⟨pre.length, ?_, ?_⟩
    · simp only [List.length_append]
      omega
    · rw [List.append_assoc, List.drop_left]
      exact List.prefix_append needle post

end Showcase.Text
