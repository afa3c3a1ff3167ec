/-!
# Hexadecimal digits

The digits that escapes in quoted strings are written with, and the codes they name.
-/

namespace Showcase.Hex

/-- The value of a hexadecimal digit. -/
def digit? (c : Char) : Option Nat :=
  if '0' ≤ c ∧ c ≤ '9' then some (c.toNat - '0'.toNat)
  else if 'a' ≤ c ∧ c ≤ 'f' then some (c.toNat - 'a'.toNat + 10)
  else if 'A' ≤ c ∧ c ≤ 'F' then some (c.toNat - 'A'.toNat + 10)
  else none

/-- Whether a character is a hexadecimal digit. -/
def isDigit (c : Char) : Bool := (digit? c).isSome

/-- The number that digits spell after those of `high`, or `none` if one is no digit. -/
def number? (high : Nat) : List Char → Option Nat
  | [] => some high
  | c :: cs => (digit? c).bind fun d => number? (high * 16 + d) cs

/-- The number spelled by the first `count` characters, and what follows them. -/
def code? (count : Nat) (cs : List Char) : Option (Nat × List Char) :=
  if (cs.take count).length = count then
    (number? 0 (cs.take count)).map fun n => (n, cs.drop count)
  else none

/-- The digit of a number below sixteen. -/
def digitChar (n : Nat) : Char := Nat.digitChar (n % 16)

/-- The two digits of a number below 256. -/
def byte (n : Nat) : List Char := [digitChar (n / 16), digitChar n]

end Showcase.Hex
