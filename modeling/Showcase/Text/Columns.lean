import Showcase.Text.Table.Cluster
import Showcase.Text.Table.Columns

/-!
# Columns of a text

The number of terminal columns a text takes.  A character takes none, one or two; ideographs and
emoji take two, combining and ignorable characters none, controls one.

Some sequences take fewer or more columns than their characters.  A carriage return and a line feed
take one column together.  The selector that asks for colour widens an emoji to two columns and the
one that asks for text narrows it to one; an emoji with a skin tone takes two, and so do emoji tied
by joiners.  In some scripts letters are drawn as one: lam and alef in Arabic, alef and lamed with a
joiner in Hebrew, consonants with a joiner in Tifinagh, and a few more.

The text is read from its end to its start.  `Ahead` is what was read last, as far as it matters to
the character before it, and `Ahead.step` says what that character adds.
-/

namespace Showcase.Text

/-! ## Single characters -/

/-- Whether a character is a skin tone. -/
def isSkinTone (c : Char) : Bool := decide (0x1F3FB ≤ c.toNat) && decide (c.toNat ≤ 0x1F3FF)

/-- Whether a character is half of a flag. -/
def isFlagLetter (c : Char) : Bool := decide (0x1F1E6 ≤ c.toNat) && decide (c.toNat ≤ 0x1F1FF)

/-- Whether a character takes no column. -/
def isZeroWidth (c : Char) : Bool :=
  let n := c.toNat
  if n = 0x115F ∨ n = 0x2D7F then false
  else
    (extendRanges.has n && !isSkinTone c) || ignorableRanges.has n ||
    (decide (0x1160 ≤ n) && decide (n ≤ 0x11FF)) || (decide (0xD7B0 ≤ n) && decide (n ≤ 0xD7FB)) ||
    [0x605, 0x70F, 0x890, 0x891, 0x8E2, 0xA8FA].contains n

/-- The columns of one character. -/
def charColumns (c : Char) : Nat :=
  if c.toNat < 0xA0 then 1
  else if isZeroWidth c then 0
  else if wideRanges.has c.toNat then 2
  else 1

/-- Whether the selector that asks for colour widens a character. -/
def isWidened (c : Char) : Bool := emojiRanges.has c.toNat && !isFlagLetter c && !isSkinTone c

/-- Whether the selector that asks for text narrows a character. -/
def isNarrowed (c : Char) : Bool := narrowableRanges.has c.toNat

/-- Whether a character is an emoji that is drawn in colour by itself. -/
def isColourful (c : Char) : Bool :=
  colourEmojiRanges.has c.toNat && !isFlagLetter c && !isSkinTone c

/-- Whether a skin tone can follow a character. -/
def takesTone (c : Char) : Bool := modifiableEmojiRanges.has c.toNat

/-! ## Letters that are drawn together -/

/-- Whether a character is an Arabic lam. -/
def isLam (c : Char) : Bool := lamRanges.has c.toNat

/-- Whether a mark may stand between an Arabic lam and an alef. -/
def isArabicMark (c : Char) : Bool := isZeroWidth c && !partingRanges.has c.toNat

/-- Whether a character is a Tifinagh consonant. -/
def isTifinagh (c : Char) : Bool := tifinaghRanges.has c.toNat

/-- Whether a character may stand inside a group of letters that are drawn together. -/
def isInvisibleInside (c : Char) : Bool := insideRanges.has c.toNat

/-- What stands after a place in a text. -/
inductive Follower where
  /-- Nothing that matters. -/
  | nothing
  /-- A line feed. -/
  | lineFeed
  /-- A skin tone. -/
  | tone
  /-- An emoji in colour. -/
  | emoji
  /-- A joiner and an emoji in colour. -/
  | joinedEmoji
  /-- An Arabic alef. -/
  | alef
  /-- A Hebrew lamed, behind a joiner or not. -/
  | lamed (joined : Bool)
  /-- A Buginese ya, behind a joiner or not. -/
  | ya (joined : Bool)
  /-- A Buginese vowel sign, a joiner and a ya. -/
  | vowelAndYa
  /-- A Tifinagh consonant, behind a joiner or not. -/
  | consonant (joined : Bool)
  /-- The joiner of Tifinagh and a consonant. -/
  | tiedConsonant
  /-- A Khmer letter that can be written below another one. -/
  | lowLetter
  /-- A Lisu tone letter that comes second. -/
  | toneLetter
  /-- An Old Turkic letter, behind a joiner or not. -/
  | orkhonI (joined : Bool)
  /-- A Kirat Rai vowel sign. -/
  | vowelE
  /-- Two of them. -/
  | vowelAi
  deriving DecidableEq

/-- Whether a follower is a letter that can be drawn together with what stands before it. -/
def Follower.isLetter : Follower → Bool
  | nothing | lineFeed | tone | emoji | joinedEmoji => false
  | _ => true

/-- Whether invisible characters may stand before a follower and change nothing. -/
def Follower.sharesPlace : Follower → Bool
  | alef => false
  | follower => follower.isLetter

/-- A follower behind a joiner. -/
def Follower.join : Follower → Follower
  | lamed _ => lamed true
  | ya _ => ya true
  | consonant _ => consonant true
  | orkhonI _ => orkhonI true
  | follower => follower

/-! ## Counting -/

/-- The selectors that can follow an emoji. -/
inductive Selector where
  | colour
  | text
  deriving DecidableEq

/-- What was read last, when a text is read from its end. -/
structure Ahead where
  /-- A selector. -/
  selector : Option Selector := none
  /-- What stands behind it. -/
  follower : Follower := .nothing
  deriving DecidableEq

namespace Ahead

/-- What a character is to the character before it, apart from what follows. -/
def ofChar (c : Char) : Ahead :=
  let n := c.toNat
  if n = 0xFE0F then ⟨some .colour, .nothing⟩
  else if n = 0xFE0E then ⟨some .text, .nothing⟩
  else if isColourful c then ⟨none, .emoji⟩
  else if isSkinTone c then ⟨none, .tone⟩
  else if alefRanges.has n then ⟨none, .alef⟩
  else if n = 0x5DC then ⟨none, .lamed false⟩
  else if n = 0x1A10 then ⟨none, .ya false⟩
  else if isTifinagh c then ⟨none, .consonant false⟩
  else if lowLetterRanges.has n then ⟨none, .lowLetter⟩
  else if n = 0xA4FC ∨ n = 0xA4FD then ⟨none, .toneLetter⟩
  else if n = 0x10C03 then ⟨none, .orkhonI false⟩
  else if n = 0x16D67 then ⟨none, .vowelE⟩
  else if n = 0x16D68 then ⟨none, .vowelAi⟩
  else {}

/-- What a character adds that nothing touches. -/
def alone (c : Char) : Int × Ahead := (charColumns c, ofChar c)

/-- What a character adds that follows no rule about selectors. -/
def pair (follower : Follower) (c : Char) : Int × Ahead :=
  let n := c.toNat
  match follower with
  | .alef =>
    if isLam c then (0, {})
    else if isArabicMark c then (0, ⟨none, .alef⟩)
    else alone c
  | .lamed true => if n = 0x5D0 then (0, {}) else alone c
  | .lowLetter => if n = 0x17D2 then (-1, {}) else alone c
  | .ya true => if n = 0x1A17 then (0, ⟨none, .vowelAndYa⟩) else alone c
  | .vowelAndYa => if n = 0x1A15 then (0, {}) else alone c
  | .consonant joined =>
    if n = 0x2D7F then (1, ⟨none, .tiedConsonant⟩)
    else if joined && isTifinagh c then (0, {})
    else alone c
  | .tiedConsonant => if isTifinagh c then (-1, {}) else alone c
  | .toneLetter => if 0xA4F8 ≤ n ∧ n ≤ 0xA4FB then (0, {}) else alone c
  | .orkhonI true => if n = 0x10C32 then (0, {}) else alone c
  | .tone =>
    if takesTone c then (0, ⟨none, .emoji⟩)
    else if n = 0x200D then (0, ⟨none, .joinedEmoji⟩)
    else alone c
  | .emoji => if n = 0x200D then (0, ⟨none, .joinedEmoji⟩) else alone c
  | .joinedEmoji =>
    if isSkinTone c then (0, ⟨none, .tone⟩)
    else if isColourful c then (0, ⟨none, .emoji⟩)
    else alone c
  | .vowelE =>
    if n = 0x16D63 ∨ n = 0x16D69 then (0, {})
    else if n = 0x16D67 then (0, ⟨none, .vowelAi⟩)
    else if n = 0x16D68 then (1, ⟨none, .vowelE⟩)
    else alone c
  | .vowelAi => if n = 0x16D63 then (0, {}) else alone c
  | _ => alone c

/-- What a character adds that stands before no selector for colour. -/
def plain (c : Char) (ahead : Ahead) : Int × Ahead :=
  let kept : Follower := if ahead.follower.isLetter then ahead.follower else .nothing
  let n := c.toNat
  if n ≤ 0xA0 then
    if c = '\n' then (1, ⟨none, .lineFeed⟩)
    else if c = '\r' ∧ ahead.follower = .lineFeed then (0, {})
    else (1, {})
  else if n = 0xFE0F then
    (0, ⟨some .colour, if ahead.follower = .joinedEmoji then .joinedEmoji else kept⟩)
  else if n = 0xFE0E then (0, ⟨some .text, kept⟩)
  else if ahead.selector = some .text ∧ isNarrowed c then (1, {})
  else if ahead.follower.sharesPlace ∧ n = 0x200D then (0, ⟨none, ahead.follower.join⟩)
  else if ahead.follower.sharesPlace ∧ isInvisibleInside c then (0, ⟨none, ahead.follower⟩)
  else pair ahead.follower c

/-- What a character adds, given what follows it. -/
def step (c : Char) (ahead : Ahead) : Int × Ahead :=
  if ahead.selector = some .colour then
    if isWidened c then (if ahead.follower = .joinedEmoji then 0 else 2, ⟨none, .emoji⟩)
    else plain c ⟨none, if ahead.follower.isLetter then ahead.follower else .nothing⟩
  else plain c ahead

/-- One more character before a text whose columns are counted. -/
def add (c : Char) (counted : Int × Ahead) : Int × Ahead :=
  let (more, ahead) := step c counted.2
  (counted.1 + more, ahead)

/-- A character of the basic block, a line feed apart, adds one column when nothing that matters
follows it. -/
theorem step_basic {c : Char} (basic : c.toNat ≤ 0xA0) (h : c ≠ '\n') : step c {} = (1, {}) := by
  simp [step, plain, basic, h]

end Ahead

/-- The columns of a list of characters. -/
def columns (cs : List Char) : Nat := (cs.foldr Ahead.add (0, {})).1.toNat

/-- No characters take no columns. -/
@[simp] theorem columns_nil : columns [] = 0 := rfl

/-- Characters of the basic block without line feeds take a column each. -/
theorem columns_of_basic {cs : List Char} (h : ∀ c ∈ cs, c.toNat ≤ 0xA0 ∧ c ≠ '\n') :
    columns cs = cs.length := by
  have counted : cs.foldr Ahead.add (0, {}) = ((cs.length : Int), {}) := by
    induction cs with
    | nil => rfl
    | cons c cs ih =>
      have rest := ih fun d member => h d (List.mem_cons_of_mem c member)
      obtain ⟨basic, plain⟩ := h c List.mem_cons_self
      simp [List.foldr_cons, rest, Ahead.add, Ahead.step_basic basic plain]
  simp [columns, counted]

end Showcase.Text
