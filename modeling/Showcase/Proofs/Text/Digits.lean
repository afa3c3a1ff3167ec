import Mathlib.Data.List.Basic

/-!
# Decimal digits

The digits of a number, as `toString` writes them: all of them are among the ten
(`mem_digits_of_mem_toDigits`), so that what holds of the ten holds of them (`forall_mem_toDigits`),
and only the number zero starts with a zero (`head?_toDigits`).
-/

namespace Showcase.Text

/-- The decimal digits. -/
def digits : List Char := ['0', '1', '2', '3', '4', '5', '6', '7', '8', '9']

theorem mem_digits_of_mem_toDigits {c : Char} {n : Nat} (member : c ∈ Nat.toDigits 10 n) :
    c ∈ digits := by
  have digit := Nat.isDigit_of_mem_toDigits (by decide) (by decide) member
  simp only [Char.isDigit, Bool.and_eq_true, decide_eq_true_eq] at digit
  have low : 48 ≤ c.toNat := digit.1
  have high : c.toNat < 58 := Nat.lt_succ_of_le digit.2
  have all : ∀ code < 58, 48 ≤ code → Char.ofNat code ∈ digits := by decide
  exact Char.ofNat_toNat c ▸ all c.toNat high low

/-- What holds of the ten digits holds of the digits of a number. -/
theorem forall_mem_toDigits {p : Char → Bool} (all : digits.all p = true) (n : Nat) :
    ∀ c ∈ Nat.toDigits 10 n, p c = true :=
  fun c member => List.all_eq_true.1 all c (mem_digits_of_mem_toDigits member)

theorem toList_toString_append (n : Nat) (rest : String) :
    (toString n ++ rest).toList = Nat.toDigits 10 n ++ rest.toList := by
  rw [Nat.toString_eq_ofList_toDigits, String.toList_append, String.toList_ofList]

/-- A number that is not zero does not start with a zero. -/
theorem head?_toDigits {n : Nat} (positive : n ≠ 0) : (Nat.toDigits 10 n).head? ≠ some '0' := by
  induction n using Nat.strongRecOn with
  | ind n induction =>
      rw [Nat.toDigits_eq_if (by decide)]
      split
      next single =>
        have first : ∀ n < 10, n ≠ 0 → [n.digitChar].head? ≠ some '0' := by decide
        exact first n single positive
      next several =>
        have fewer := induction (n / 10) (by omega) (by omega)
        rwa [List.head?_append_of_ne_nil _ Nat.toDigits_ne_nil]

end Showcase.Text
