import Showcase.App.Key

/-!
# Keys from a terminal

A terminal in raw mode sends the characters of keys as they are, control together with a letter as
the number of the letter, and other keys as sequences that begin with the escape character.
`keysOf` cuts what it sent into key presses.
-/

namespace Showcase

/-- The keys that are sent as a sequence, by what follows the escape character. -/
def Key.sequences : List (List Char × Key) := [
  (['[', 'A'], .up), (['[', 'B'], .down), (['[', 'C'], .right), (['[', 'D'], .left),
  (['O', 'A'], .up), (['O', 'B'], .down), (['O', 'C'], .right), (['O', 'D'], .left),
  (['[', 'H'], .home), (['[', 'F'], .end), (['[', 'Z'], .backTab),
  (['[', '2', '~'], .insert), (['[', '3', '~'], .delete),
  (['[', '5', '~'], .pageUp), (['[', '6', '~'], .pageDown)]

/-- The key of a single character, and whether control was held. -/
def Key.ofChar (c : Char) : Key × Bool :=
  if c = '\r' then (.enter, false)
  else if c = '\t' then (.tab, false)
  else if c.toNat = 0x7F ∨ c.toNat = 0x08 then (.backspace, false)
  else if c.toNat = 0x1B then (.esc, false)
  else if 0 < c.toNat ∧ c.toNat < 0x1B then (.char (Char.ofNat (c.toNat + 0x60)), true)
  else (.char c, false)

/-- The key presses in what a terminal sent, with fuel for as many. -/
def keysFrom : Nat → List Char → List TerminalEvent
  | 0, _ | _, [] => []
  | fuel + 1, c :: cs =>
    let sequence := if c.toNat = 0x1B then Key.sequences.find? (·.1.isPrefixOf cs) else none
    match sequence with
    | some (tail, key) => .press key false :: keysFrom fuel (cs.drop tail.length)
    | none => .press (Key.ofChar c).1 (Key.ofChar c).2 :: keysFrom fuel cs

/-- The key presses in what a terminal sent. -/
def keysOf (sent : String) : List TerminalEvent := keysFrom sent.toList.length sent.toList

end Showcase
