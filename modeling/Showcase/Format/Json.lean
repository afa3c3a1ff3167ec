import Showcase.Format.Hex
import Showcase.Text.Infix

/-!
# JSON

The values of JSON, a reader for them and a writer for strings.

A string of JSON may name a surrogate that has no partner.  Such a string is no text, and it does
no harm as long as nobody asks for its text, so a value keeps it as `none`.  Numbers are checked
for their form and kept as written.

The reader goes over the characters once.  Its fuel bounds the nesting and the number of items;
`Json.read?` starts it with more fuel than the text has characters, so it never runs out.
-/

namespace Showcase.Json

/-- The text of a JSON string, or `none` for one with a surrogate that has no partner. -/
abbrev Str := Option String

/-- A JSON value. -/
inductive Value where
  | null
  | bool (b : Bool)
  | number (literal : String)
  | string (text : Str)
  | array (items : List Value)
  | object (members : List (Str × Value))
  deriving Inhabited

/-! ## Blanks, digits and numbers -/

/-- Whether a character may stand between the parts of a value. -/
def isBlank (c : Char) : Bool := c == ' ' || c == '\n' || c == '\t' || c == '\r'

/-- What follows the blanks. -/
def skipBlanks (cs : List Char) : List Char := cs.dropWhile isBlank

/-- One digit or more, and what follows. -/
def digits? (cs : List Char) : Option (List Char × List Char) :=
  match cs.takeWhile Char.isDigit with
  | [] => none
  | ds => some (ds, cs.dropWhile Char.isDigit)

/-- The whole part of a number: a zero alone, or digits that start with another one. -/
def wholePart? : List Char → Option (List Char × List Char)
  | '0' :: cs => some (['0'], cs)
  | cs => digits? cs

/-- The fraction of a number, if a point follows. -/
def fraction? : List Char → Option (List Char × List Char)
  | '.' :: cs => (digits? cs).map fun (ds, rest) => ('.' :: ds, rest)
  | cs => some ([], cs)

/-- The exponent of a number, if its letter follows. -/
def exponent? : List Char → Option (List Char × List Char)
  | [] => some ([], [])
  | e :: cs =>
    if e = 'e' ∨ e = 'E' then
      let (sign, cs) := match cs with
        | '+' :: cs => (['+'], cs)
        | '-' :: cs => (['-'], cs)
        | cs => ([], cs)
      (digits? cs).map fun (ds, rest) => (e :: sign ++ ds, rest)
    else some ([], e :: cs)

/-- A number and what follows. -/
def number? (cs : List Char) : Option (String × List Char) := do
  let (sign, cs) := match cs with
    | '-' :: cs => (['-'], cs)
    | cs => ([], cs)
  let (whole, cs) ← wholePart? cs
  let (fraction, cs) ← fraction? cs
  let (exponent, cs) ← exponent? cs
  return (String.ofList (sign ++ whole ++ fraction ++ exponent), cs)

/-! ## Strings -/

/-- The character that a letter after a backslash stands for. -/
def escape? : Char → Option Char
  | '"' => some '"'
  | '\\' => some '\\'
  | '/' => some '/'
  | 'b' => some '\x08'
  | 'f' => some '\x0c'
  | 'n' => some '\n'
  | 'r' => some '\r'
  | 't' => some '\t'
  | _ => none

/-- The code named after a backslash, and what follows. -/
def escapeCode? : List Char → Option (Nat × List Char)
  | [] => none
  | 'u' :: cs => Hex.code? 4 cs
  | e :: cs => (escape? e).map fun c => (c.toNat, cs)

/-- The codes of a string after its opening quote, and what follows its closing quote.  A code is
a code point, or half of one when an escape names a surrogate. -/
def codes? : Nat → List Char → Option (List Nat × List Char)
  | 0, _ => none
  | _ + 1, [] => none
  | fuel + 1, c :: cs =>
    if c = '"' then some ([], cs)
    else if c = '\\' then do
      let (n, cs) ← escapeCode? cs
      let (ns, rest) ← codes? fuel cs
      return (n :: ns, rest)
    else if c.toNat < 0x20 then none
    else do
      let (ns, rest) ← codes? fuel cs
      return (c.toNat :: ns, rest)

/-- Whether a code is the first half of a pair. -/
def isHighHalf (n : Nat) : Bool := decide (0xD800 ≤ n) && decide (n ≤ 0xDBFF)

/-- Whether a code is the second half of a pair. -/
def isLowHalf (n : Nat) : Bool := decide (0xDC00 ≤ n) && decide (n ≤ 0xDFFF)

/-- The characters of codes, when every half has its partner. -/
def joinHalves? : List Nat → Option (List Char)
  | [] => some []
  | n :: ns =>
    if isLowHalf n then none
    else if isHighHalf n then
      match ns with
      | m :: ms =>
        if isLowHalf m then
          (joinHalves? ms).map (Char.ofNat (0x10000 + (n - 0xD800) * 0x400 + (m - 0xDC00)) :: ·)
        else none
      | [] => none
    else (joinHalves? ns).map (Char.ofNat n :: ·)

/-- A string after its opening quote, and what follows it. -/
def string? (cs : List Char) : Option (Str × List Char) :=
  (codes? (cs.length + 1) cs).map fun (ns, rest) => ((joinHalves? ns).map String.ofList, rest)

/-! ## Values -/

mutual

/-- A value at the head of a text, and what follows it. -/
def value? : Nat → List Char → Option (Value × List Char)
  | 0, _ => none
  | _ + 1, [] => none
  | fuel + 1, c :: cs =>
    match c with
    | '"' => (string? cs).map fun (text, rest) => (.string text, rest)
    | '[' =>
      match skipBlanks cs with
      | ']' :: rest => some (.array [], rest)
      | cs => (items? fuel cs).map fun (items, rest) => (.array items, rest)
    | '{' =>
      match skipBlanks cs with
      | '}' :: rest => some (.object [], rest)
      | cs => (members? fuel cs).map fun (members, rest) => (.object members, rest)
    | 'n' => (Text.after? "ull".toList cs).map fun rest => (.null, rest)
    | 't' => (Text.after? "rue".toList cs).map fun rest => (.bool true, rest)
    | 'f' => (Text.after? "alse".toList cs).map fun rest => (.bool false, rest)
    | c => (number? (c :: cs)).map fun (literal, rest) => (.number literal, rest)

/-- The items of an array up to its closing bracket, at least one. -/
def items? : Nat → List Char → Option (List Value × List Char)
  | 0, _ => none
  | fuel + 1, cs => do
    let (item, cs) ← value? fuel cs
    match skipBlanks cs with
    | ']' :: rest => return ([item], rest)
    | ',' :: cs =>
      let (items, rest) ← items? fuel (skipBlanks cs)
      return (item :: items, rest)
    | _ => none

/-- The members of an object up to its closing brace, at least one. -/
def members? : Nat → List Char → Option (List (Str × Value) × List Char)
  | 0, _ => none
  | fuel + 1, cs => do
    let '"' :: cs := cs | none
    let (name, cs) ← string? cs
    let ':' :: cs := skipBlanks cs | none
    let (value, cs) ← value? fuel (skipBlanks cs)
    match skipBlanks cs with
    | '}' :: rest => return ([(name, value)], rest)
    | ',' :: cs =>
      let (members, rest) ← members? fuel (skipBlanks cs)
      return ((name, value) :: members, rest)
    | _ => none

end

/-- The value that a whole text holds, with blanks around it. -/
def read? (s : String) : Option Value := do
  let cs := s.toList
  let (value, rest) ← value? (cs.length + 1) (skipBlanks cs)
  if (skipBlanks rest).isEmpty then some value else none

/-! ## Writing strings -/

/-- A character inside a JSON string: the quote, the backslash and the controls are escaped. -/
def writeChar (c : Char) : List Char :=
  if c = '"' then ['\\', '"']
  else if c = '\\' then ['\\', '\\']
  else if c.toNat < 0x20 then '\\' :: 'u' :: '0' :: '0' :: Hex.byte c.toNat
  else [c]

/-- A text as a JSON string. -/
def writeString (s : String) : List Char := '"' :: s.toList.flatMap writeChar ++ ['"']

end Showcase.Json
