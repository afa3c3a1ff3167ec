import Showcase.Text.Table.Cluster

/-!
# Clusters

A *cluster* is what a reader takes for one character: a letter with its accents, a syllable of
jamo, a pair of flag letters, an emoji with its tone, several emoji tied by joiners.  Each cell of
the screen holds one cluster.

`clusters` cuts a text by looking at each pair of neighbours.  Three rules look further back than
one character: flag letters pair up, a joiner ties pictographs only after a pictograph, and a
linker ties consonants only after a consonant.  `Context` remembers what they need.
-/

namespace Showcase.Text

/-- The class of a character in the rules for clusters. -/
inductive ClusterClass where
  | carriageReturn
  | lineFeed
  | control
  | extend
  | joiner
  | flagLetter
  | leadingMark
  | spacingMark
  | leadJamo
  | vowelJamo
  | tailJamo
  | openSyllable
  | closedSyllable
  | pictograph
  | other
  deriving DecidableEq

/-- The class of a character. -/
def clusterClass (c : Char) : ClusterClass :=
  let n := c.toNat
  if n = 0xD then .carriageReturn
  else if n = 0xA then .lineFeed
  else if n < 0x20 then .control
  else if n < 0x7F then .other
  else if controlRanges.has n then .control
  else if n = 0x200D then .joiner
  else if extendRanges.has n then .extend
  else if 0x1F1E6 ≤ n ∧ n ≤ 0x1F1FF then .flagLetter
  else if leadingMarkRanges.has n then .leadingMark
  else if spacingMarkRanges.has n then .spacingMark
  else if (0x1100 ≤ n ∧ n ≤ 0x115F) ∨ (0xA960 ≤ n ∧ n ≤ 0xA97C) then .leadJamo
  else if (0x1160 ≤ n ∧ n ≤ 0x11A7) ∨ (0xD7B0 ≤ n ∧ n ≤ 0xD7C6) ∨ n = 0x16D63 ∨
      (0x16D67 ≤ n ∧ n ≤ 0x16D6A) then .vowelJamo
  else if (0x11A8 ≤ n ∧ n ≤ 0x11FF) ∨ (0xD7CB ≤ n ∧ n ≤ 0xD7FB) then .tailJamo
  else if 0xAC00 ≤ n ∧ n ≤ 0xD7A3 then
    if (n - 0xAC00) % 28 = 0 then .openSyllable else .closedSyllable
  else if pictographRanges.has n then .pictograph
  else .other

/-- How far a pair of consonants has come to be tied. -/
inductive Conjunct where
  /-- No consonant is open. -/
  | idle
  /-- A consonant stands before, without a linker yet. -/
  | consonant
  /-- A consonant and a linker stand before. -/
  | linked
  deriving DecidableEq

/-- How far a pair of pictographs has come to be tied. -/
inductive Tie where
  /-- No pictograph is open. -/
  | idle
  /-- A pictograph stands before, with only extending marks after it. -/
  | pictograph
  /-- The same with a joiner at the end. -/
  | joined
  deriving DecidableEq

/-- What the rules remember of the characters before a place. -/
structure Context where
  /-- The class of the character right before. -/
  last : ClusterClass
  /-- Whether an odd number of flag letters stands right before. -/
  oddFlags : Bool
  /-- How far a pair of pictographs has come. -/
  tie : Tie
  /-- How far a pair of consonants has come. -/
  conjunct : Conjunct

/-- The conjunct state after one more character. -/
def Conjunct.next (state : Conjunct) (c : Char) : Conjunct :=
  let n := c.toNat
  if n < 0x300 then .idle
  else if conjunctRanges.has n then .consonant
  else if linkers.contains n then
    match state with
    | .idle => .idle
    | _ => .linked
  else if n = 0x200D ∨ (n ≠ 0x200C ∧ extendRanges.has n) then state
  else .idle

/-- The state of a pair of pictographs after one more character. -/
def Tie.next (state : Tie) (cls : ClusterClass) : Tie :=
  match cls, state with
  | .pictograph, _ => .pictograph
  | .extend, .pictograph => .pictograph
  | .joiner, .pictograph => .joined
  | _, _ => .idle

/-- What is remembered at the start of a text. -/
def Context.start : Context := ⟨.other, false, .idle, .idle⟩

/-- What is remembered after one more character. -/
def Context.next (ctx : Context) (c : Char) : Context :=
  let cls := clusterClass c
  { last := cls
    oddFlags := decide (cls = .flagLetter) && !ctx.oddFlags
    tie := ctx.tie.next cls
    conjunct := ctx.conjunct.next c }

/-- Whether a character belongs to the cluster of the characters before it. -/
def Context.joins (ctx : Context) (c : Char) : Bool :=
  match ctx.last, clusterClass c with
  | .carriageReturn, .lineFeed => true
  | .carriageReturn, _ | .lineFeed, _ | .control, _ => false
  | _, .carriageReturn | _, .lineFeed | _, .control => false
  | .leadJamo, .leadJamo | .leadJamo, .vowelJamo => true
  | .leadJamo, .openSyllable | .leadJamo, .closedSyllable => true
  | .openSyllable, .vowelJamo | .vowelJamo, .vowelJamo => true
  | .openSyllable, .tailJamo | .vowelJamo, .tailJamo => true
  | .closedSyllable, .tailJamo | .tailJamo, .tailJamo => true
  | _, .extend | _, .joiner | _, .spacingMark => true
  | .leadingMark, _ => true
  | .joiner, .pictograph => decide (ctx.tie = .joined)
  | .flagLetter, .flagLetter => ctx.oddFlags
  | _, _ => decide (ctx.conjunct = .linked) && conjunctRanges.has c.toNat

/-- The clusters of a text whose first cluster has begun with the characters of `begun`, last
first. -/
def clustersFrom (ctx : Context) (begun : List Char) : List Char → List (List Char)
  | [] => [begun.reverse]
  | c :: cs =>
    if ctx.joins c then clustersFrom (ctx.next c) (c :: begun) cs
    else begun.reverse :: clustersFrom (Context.start.next c) [c] cs

/-- The clusters of a text, in order. -/
def clusters : List Char → List (List Char)
  | [] => []
  | c :: cs => clustersFrom (Context.start.next c) [c] cs

end Showcase.Text
