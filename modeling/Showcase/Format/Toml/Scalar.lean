import Showcase.Format.Hex
import Showcase.Text.Infix

/-!
# Scalars of TOML

Strings in their four spellings, numbers, truth values and moments of time.  Numbers with a
fraction and moments are checked for their form and kept as written; nothing here needs their
value.
-/

namespace Showcase.Toml

/-- A value without parts. -/
inductive Scalar where
  | string (text : String)
  | integer (value : Int)
  | float (literal : String)
  | bool (value : Bool)
  | moment (literal : String)
  deriving DecidableEq, Repr, Inhabited

/-! ## Characters -/

/-- Whether a character makes room inside a line. -/
def isBlank (c : Char) : Bool := c == ' ' || c == '\t'

/-- What follows the blanks of a line. -/
def skipBlanks (cs : List Char) : List Char := cs.dropWhile isBlank

/-- Whether a character may stand in a comment, and in a string when it is not the closing quote
or a backslash: every one but the controls, of which the tab is allowed. -/
def isPlain (c : Char) : Bool :=
  c == '\t' || (decide (0x20 ≤ c.toNat) && decide (c.toNat ≠ 0x7F))

/-- What follows a line ending at the head of a text. -/
def newline? : List Char → Option (List Char)
  | '\n' :: cs => some cs
  | '\r' :: '\n' :: cs => some cs
  | _ => none

/-! ## Strings -/

/-- The character that a letter after a backslash stands for. -/
def escape? : Char → Option Char
  | 'b' => some '\x08'
  | 't' => some '\t'
  | 'n' => some '\n'
  | 'f' => some '\x0c'
  | 'r' => some '\r'
  | 'e' => some '\x1b'
  | '"' => some '"'
  | '\\' => some '\\'
  | _ => none

/-- The character with a code, which must not be a surrogate or past the last one. -/
def charOfCode? (n : Nat) : Option Char := if n.isValidChar then some (Char.ofNat n) else none

/-- The character named after a backslash, and what follows. -/
def escaped? : List Char → Option (Char × List Char)
  | [] => none
  | 'x' :: cs => codeOf 2 cs
  | 'u' :: cs => codeOf 4 cs
  | 'U' :: cs => codeOf 8 cs
  | e :: cs => (escape? e).map fun c => (c, cs)
where
  /-- A character named by its code in so many digits. -/
  codeOf (count : Nat) (cs : List Char) : Option (Char × List Char) :=
    (Hex.code? count cs).bind fun (n, rest) => (charOfCode? n).map fun c => (c, rest)

/-- A string with escapes on one line, after its opening quote. -/
def basic? : Nat → List Char → Option (List Char × List Char)
  | 0, _ => none
  | _ + 1, [] => none
  | fuel + 1, c :: cs =>
    if c = '"' then some ([], cs)
    else if c = '\\' then do
      let (e, cs) ← escaped? cs
      let (text, rest) ← basic? fuel cs
      return (e :: text, rest)
    else if isPlain c then do
      let (text, rest) ← basic? fuel cs
      return (c :: text, rest)
    else none

/-- A string without escapes on one line, after its opening quote. -/
def literal? : List Char → Option (List Char × List Char)
  | [] => none
  | c :: cs =>
    if c = '\'' then some ([], cs)
    else if isPlain c then (literal? cs).map fun (text, rest) => (c :: text, rest)
    else none

/-- A closing run of three quotes, before which up to two more belong to the string: those two or
fewer, and what follows. -/
def closing? (quote : Char) (cs : List Char) : Option (List Char × List Char) :=
  let run := (cs.takeWhile (· == quote)).length
  if run < 3 then none
  else some (List.replicate (min run 5 - 3) quote, cs.drop (min run 5))

/-- A string with escapes over several lines, after its opening quotes.  A backslash at the end
of a line takes the blanks and line endings after it away, which is what `trimming` does. -/
def basicLines? : Nat → Bool → List Char → Option (List Char × List Char)
  | 0, _, _ => none
  | fuel + 1, trimming, cs =>
    match newline? cs with
    | some rest =>
      if trimming then basicLines? fuel true rest
      else (basicLines? fuel false rest).map fun (text, after) =>
        (cs.take (cs.length - rest.length) ++ text, after)
    | none =>
      match closing? '"' cs with
      | some found => some found
      | none =>
        match cs with
        | [] => none
        | c :: cs =>
          if trimming && isBlank c then basicLines? fuel true cs
          else if c = '\\' then
            if (newline? (skipBlanks cs)).isSome then basicLines? fuel true cs
            else do
              let (e, cs) ← escaped? cs
              let (text, rest) ← basicLines? fuel false cs
              return (e :: text, rest)
          else if isPlain c then
            (basicLines? fuel false cs).map fun (text, rest) => (c :: text, rest)
          else none

/-- A string without escapes over several lines, after its opening quotes. -/
def literalLines? : Nat → List Char → Option (List Char × List Char)
  | 0, _ => none
  | fuel + 1, cs =>
    match newline? cs with
    | some rest => (literalLines? fuel rest).map fun (text, after) =>
        (cs.take (cs.length - rest.length) ++ text, after)
    | none =>
      match closing? '\'' cs with
      | some found => some found
      | none =>
        match cs with
        | [] => none
        | c :: cs =>
          if isPlain c then
            (literalLines? fuel cs).map fun (text, rest) => (c :: text, rest)
          else none

/-- A text without the line ending at its head. -/
def dropNewline (cs : List Char) : List Char := (newline? cs).getD cs

/-- A string in any of its spellings, if a quote stands at the head. -/
def string? (cs : List Char) : Option (List Char × List Char) :=
  match cs with
  | '"' :: '"' :: '"' :: cs => basicLines? (cs.length + 1) false (dropNewline cs)
  | '\'' :: '\'' :: '\'' :: cs => literalLines? (cs.length + 1) (dropNewline cs)
  | '"' :: cs => basic? (cs.length + 1) cs
  | '\'' :: cs => literal? cs
  | _ => none

/-! ## Numbers -/

/-- Whether characters are digits with single underscores only between digits. -/
def isGrouped (isDigit : Char → Bool) : List Char → Bool
  | [] => false
  | [c] => isDigit c
  | c :: '_' :: cs => isDigit c && isGrouped isDigit cs
  | c :: cs => isDigit c && isGrouped isDigit cs

/-- Whether characters are decimal digits in groups, without a zero in front of another digit. -/
def isWhole : List Char → Bool
  | ['0'] => true
  | '0' :: _ => false
  | cs => isGrouped Char.isDigit cs

/-- The number that digits spell in a base, underscores aside. -/
def numberIn (base : Nat) (cs : List Char) : Nat :=
  cs.foldl (fun n c => match Hex.digit? c with
    | some d => n * base + d
    | none => n) 0

/-- Whether characters are a fraction, an exponent, or both in this order, but not nothing. -/
def isFractional (cs : List Char) : Bool :=
  let isPart c := Char.isDigit c || c == '_'
  match cs with
  | '.' :: cs =>
    isGrouped Char.isDigit (cs.takeWhile isPart) &&
      (let rest := cs.dropWhile isPart
       rest.isEmpty || isExponent rest)
  | cs => isExponent cs
where
  /-- Whether characters are an exponent. -/
  isExponent : List Char → Bool
    | [] => false
    | e :: cs =>
      (e == 'e' || e == 'E') &&
        match cs with
        | '+' :: cs => isGrouped Char.isDigit cs
        | '-' :: cs => isGrouped Char.isDigit cs
        | cs => isGrouped Char.isDigit cs

/-- A decimal number with or without a fraction, after its sign. -/
def decimal? (negative : Bool) (literal cs : List Char) : Option Scalar :=
  if isWhole cs then
    let n : Int := numberIn 10 cs
    some (.integer (if negative then -n else n))
  else
    let isPart c := Char.isDigit c || c == '_'
    if cs = "inf".toList ∨ cs = "nan".toList then some (.float (String.ofList literal))
    else if isWhole (cs.takeWhile isPart) && isFractional (cs.dropWhile isPart) then
      some (.float (String.ofList literal))
    else none

/-- A number in one of its spellings. -/
def number? (cs : List Char) : Option Scalar :=
  match cs with
  | '0' :: 'x' :: ds => if isGrouped Hex.isDigit ds then some (.integer (numberIn 16 ds)) else none
  | '0' :: 'o' :: ds =>
    if isGrouped (fun c => '0' ≤ c && c ≤ '7') ds then some (.integer (numberIn 8 ds)) else none
  | '0' :: 'b' :: ds =>
    if isGrouped (fun c => c == '0' || c == '1') ds then some (.integer (numberIn 2 ds)) else none
  | '+' :: ds => decimal? false cs ds
  | '-' :: ds => decimal? true cs ds
  | ds => decimal? false cs ds

/-! ## Moments -/

/-- A number of exactly `count` decimal digits at the head of a text, and what follows. -/
def fixed? (count : Nat) (cs : List Char) : Option (Nat × List Char) :=
  let ds := cs.take count
  if ds.length = count ∧ ds.all Char.isDigit then some (numberIn 10 ds, cs.drop count) else none

/-- The days of a month. -/
def daysIn (year month : Nat) : Nat :=
  if month = 2 then
    if (year % 4 = 0 ∧ year % 100 ≠ 0) ∨ year % 400 = 0 then 29 else 28
  else if month = 4 ∨ month = 6 ∨ month = 9 ∨ month = 11 then 30
  else 31

/-- What follows a date at the head of a text. -/
def date? (cs : List Char) : Option (List Char) := do
  let (year, cs) ← fixed? 4 cs
  let '-' :: cs := cs | none
  let (month, cs) ← fixed? 2 cs
  let '-' :: cs := cs | none
  let (day, cs) ← fixed? 2 cs
  if 1 ≤ month ∧ month ≤ 12 ∧ 1 ≤ day ∧ day ≤ daysIn year month then some cs else none

/-- What follows a time of day at the head of a text; the seconds may be left out. -/
def time? (cs : List Char) : Option (List Char) := do
  let (hour, cs) ← fixed? 2 cs
  let ':' :: cs := cs | none
  let (minute, cs) ← fixed? 2 cs
  if 23 < hour ∨ 59 < minute then none
  else match cs with
    | ':' :: cs =>
      let (second, cs) ← fixed? 2 cs
      if 60 < second then none
      else match cs with
        | '.' :: cs =>
          if (cs.takeWhile Char.isDigit).isEmpty then none else some (cs.dropWhile Char.isDigit)
        | cs => some cs
    | cs => some cs

/-- Whether characters are a distance from universal time, or nothing. -/
def isOffset (cs : List Char) : Bool :=
  match cs with
  | [] => true
  | ['Z'] | ['z'] => true
  | sign :: cs =>
    (sign == '+' || sign == '-') &&
      match fixed? 2 cs with
      | some (hour, ':' :: cs) =>
        match fixed? 2 cs with
        | some (minute, []) => decide (hour ≤ 23) && decide (minute ≤ 59)
        | _ => false
      | _ => false

/-- A date, a time, or both with or without a distance from universal time. -/
def moment? (cs : List Char) : Option Scalar :=
  let ok :=
    match date? cs with
    | some [] => true
    | some (mark :: rest) =>
      (mark == 'T' || mark == 't' || mark == ' ') && ((time? rest).any isOffset)
    | none => time? cs == some []
  if ok then some (.moment (String.ofList cs)) else none

/-! ## Words -/

/-- Whether a character may stand in a value that has no quotes. -/
def isWordChar (c : Char) : Bool :=
  c.isAlphanum || c == '+' || c == '-' || c == '_' || c == '.' || c == ':'

/-- A value without quotes at the head of a text, and what follows.  A blank that parts a date
from a time belongs to it. -/
def word (cs : List Char) : List Char × List Char :=
  let first := cs.takeWhile isWordChar
  let rest := cs.dropWhile isWordChar
  match rest with
  | ' ' :: c :: more =>
    if date? first = some [] ∧ c.isDigit then
      (first ++ ' ' :: (c :: more).takeWhile isWordChar, (c :: more).dropWhile isWordChar)
    else (first, rest)
  | _ => (first, rest)

/-- The scalar that a word spells. -/
def wordScalar? (cs : List Char) : Option Scalar :=
  if cs = "true".toList then some (.bool true)
  else if cs = "false".toList then some (.bool false)
  else (number? cs).or (moment? cs)

/-- A scalar at the head of a text, and what follows. -/
def scalar? (cs : List Char) : Option (Scalar × List Char) :=
  match cs with
  | '"' :: _ | '\'' :: _ => (string? cs).map fun (text, rest) => (.string (String.ofList text), rest)
  | _ => (wordScalar? (word cs).1).map fun value => (value, (word cs).2)

/-! ## Writing strings -/

/-- A character inside a string with escapes: the quote, the backslash and every control are
escaped. -/
def writeChar (c : Char) : List Char :=
  if c = '"' then ['\\', '"']
  else if c = '\\' then ['\\', '\\']
  else if c.toNat < 0x20 ∨ c.toNat = 0x7F then '\\' :: 'u' :: '0' :: '0' :: Hex.byte c.toNat
  else [c]

/-- A text as a string with escapes on one line. -/
def writeString (s : String) : List Char := '"' :: s.toList.flatMap writeChar ++ ['"']

end Showcase.Toml
