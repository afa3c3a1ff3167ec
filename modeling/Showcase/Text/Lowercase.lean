import Showcase.Text.Table.Case

/-!
# Lowercase text

A text is lowered character by character.  Two characters need more than a table.  The dotted
capital I becomes two characters.  The capital sigma becomes the final form `ς` at the end of a
word and `σ` elsewhere: it ends a word when a cased letter stands before it and none after it,
passing over case-ignorable characters on both sides.
-/

namespace Showcase.Text

/-- Whether a character is a letter of a case. -/
def isCased (c : Char) : Bool := casedRanges.has c.toNat

/-- Whether a character is passed over when a word is read for its case. -/
def isCaseIgnorable (c : Char) : Bool := caseIgnorableRanges.has c.toNat

/-- Whether a letter of the run stands at a code point. -/
def CaseRun.holds (run : CaseRun) (n : Nat) : Bool :=
  decide (run.first ≤ n) && decide (n ≤ run.last) && decide ((n - run.first) % run.step = 0)

/-- The lowercase form of a character that has one of a single code point; any other character is
its own. -/
def lowerChar (c : Char) : Char :=
  if c.toNat < 0x80 then c.toLower
  else match caseRuns.find? (·.holds c.toNat) with
    | some run => Char.ofNat (c.toNat + run.shift).toNat
    | none => c

/-- Whether the first character that is not case-ignorable exists and is cased. -/
def meetsCased (cs : List Char) : Bool :=
  match cs.dropWhile isCaseIgnorable with
  | c :: _ => isCased c
  | [] => false

/-- The lowercase form of one character, between the characters before it, nearest first, and
those after it. -/
def lowerBetween (before : List Char) (c : Char) (after : List Char) : List Char :=
  if c = 'Σ' then [if meetsCased before && !meetsCased after then 'ς' else 'σ']
  else if c = 'İ' then ['i', '\u0307']
  else [lowerChar c]

/-- Lowers characters that stand after those of `before`, nearest first. -/
def lowerAfter (before : List Char) : List Char → List Char
  | [] => []
  | c :: after => lowerBetween before c after ++ lowerAfter (c :: before) after

/-- The characters of a text in lowercase. -/
def lowerChars (cs : List Char) : List Char := lowerAfter [] cs

/-- A text in lowercase. -/
def lowercase (s : String) : String := String.ofList (lowerChars s.toList)

end Showcase.Text
