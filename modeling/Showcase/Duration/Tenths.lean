import Showcase.Duration

/-!
# Seconds with one decimal place

A duration on display is a number of seconds with one decimal place: `1.5s`.  The seconds are
computed in single precision first, so a long duration is only as exact as its 24 leading binary
digits; the decimal place is then rounded from that number.  Both roundings go to the nearest
number, and to the even one of two that are equally near.

Numbers are kept as fractions of natural numbers, so nothing but these roundings is lost.
-/

namespace Showcase

/-- The whole number nearest to a quotient; of two, the even one. -/
def roundDiv (num den : Nat) : Nat :=
  let q := num / den
  let twice := 2 * (num % den)
  if den < twice ∨ (twice = den ∧ q % 2 = 1) then q + 1 else q

/-- A fraction that is not negative. -/
structure Fraction where
  /-- What is divided. -/
  num : Nat
  /-- By what it is divided. -/
  den : Nat
  deriving DecidableEq, Repr

namespace Fraction

/-- A whole number. -/
def whole (n : Nat) : Fraction := ⟨n, 1⟩

/-- The sum of two fractions. -/
def add (a b : Fraction) : Fraction := ⟨a.num * b.den + b.num * a.den, a.den * b.den⟩

/-- A fraction of a fraction. -/
def divNat (a : Fraction) (n : Nat) : Fraction := ⟨a.num, a.den * n⟩

/-- A fraction times a power of two. -/
def scale (a : Fraction) (exponent : Int) : Fraction :=
  if 0 ≤ exponent then ⟨a.num * Nat.pow 2 exponent.toNat, a.den⟩
  else ⟨a.num, a.den * Nat.pow 2 (-exponent).toNat⟩

/-- The nearest number of 24 binary digits. -/
def single (a : Fraction) : Fraction :=
  if a.num = 0 then whole 0
  else
    let low : Int := (a.num.log2 : Int) - (a.den.log2 : Int) - 24
    let digits := a.scale (-low)
    let exponent := if 16777216 * digits.den ≤ digits.num then low + 1 else low
    let digits := a.scale (-exponent)
    (whole (roundDiv digits.num digits.den)).scale exponent

end Fraction

namespace Duration

/-- The seconds of a duration in single precision. -/
def singleSeconds (d : Duration) : Fraction :=
  let part := ((Fraction.whole d.subNanos).single.divNat 1000000000).single
  ((Fraction.whole d.seconds).single.add part).single

/-- A duration in seconds with one decimal place. -/
def tenths (d : Duration) : String :=
  let s := d.singleSeconds
  let n := roundDiv (10 * s.num) s.den
  toString (n / 10) ++ "." ++ toString (n % 10) ++ "s"

end Duration

end Showcase
