import Showcase.Text.Table.Cluster
import Showcase.Text.Table.Invisible

/-!
# Quoted text

Messages show paths, patterns and searches between double quotes.  A quote and a backslash are
escaped, line feed, carriage return, tab and NUL have letters of their own, and every other
character that could not be seen alone, a combining mark included, is written as its code point
between braces.
-/

namespace Showcase.Text

/-- Whether a character shows when it stands alone. -/
def isVisible (c : Char) : Bool :=
  if c.toNat < 0x7F then decide (0x20 ≤ c.toNat)
  else !invisibleRanges.has c.toNat && (!extendRanges.has c.toNat || isTone c)
where
  /-- The skin tones combine but are seen alone. -/
  isTone (c : Char) : Bool := decide (0x1F3FB ≤ c.toNat) && decide (c.toNat ≤ 0x1F3FF)

/-- A character as it stands between the quotes. -/
def quoteChar (c : Char) : List Char :=
  match c with
  | '"' => ['\\', '"']
  | '\\' => ['\\', '\\']
  | '\n' => ['\\', 'n']
  | '\r' => ['\\', 'r']
  | '\t' => ['\\', 't']
  | '\x00' => ['\\', '0']
  | c =>
    if isVisible c then [c]
    else "\\u\x7b".toList ++ Nat.toDigits 16 c.toNat ++ ['\x7d']

/-- A text between double quotes. -/
def quoted (s : String) : String :=
  String.ofList ('"' :: s.toList.flatMap quoteChar ++ ['"'])

end Showcase.Text
