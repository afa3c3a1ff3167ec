/-!
# One text inside another

`occursIn needle hay` looks for a run of characters.  Only the places where the needle could still
fit are tried.  `after? word text` takes a word off the head of a text.
-/

namespace Showcase.Text

/-- Whether the needle starts at one of the first `places` places of a text. -/
def startsWithin (needle : List Char) : Nat → List Char → Bool
  | 0, _ => false
  | places + 1, hay => needle.isPrefixOf hay || startsWithin needle places hay.tail

/-- Whether the needle stands somewhere in a text. -/
def occursIn (needle hay : List Char) : Bool :=
  startsWithin needle (hay.length + 1 - needle.length) hay

/-- What follows a word at the head of a text. -/
def after? : List Char → List Char → Option (List Char)
  | [], cs => some cs
  | w :: ws, c :: cs => if w = c then after? ws cs else none
  | _ :: _, [] => none

end Showcase.Text
