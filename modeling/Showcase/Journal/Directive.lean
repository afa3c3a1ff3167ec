import Showcase.Journal.Basic
import Showcase.Text.Blank

/-!
# Directives

Directives say which records a journal keeps.  They are written with commas between them; each is a
level for everything, like `info`, or a level for the parts of the program whose names begin with a
word, like `browser_core=debug`, or only such a word, which then asks for all levels.  The longest
word that fits decides, and of two that are equal the later one.

A directive can also ask for a span, in brackets, and for a field of it, in braces, as in
`[render]=trace` and `[{key}]`.  It keeps the records made during such a span, whatever the other
directives say.  A field may be asked for without a span; then it can also be a field of a record,
and a record has just one, its message.  The value of a field is not known here, so a directive
that asks for one keeps nothing.
-/

namespace Showcase.Journal

/-- The number of levels that a text asks for, counted from the most important one. -/
def threshold? (cs : List Char) : Option Nat :=
  let s := String.ofList (cs.map Char.toLower)
  let digits := match cs with
    | '+' :: rest => rest
    | cs => cs
  if !digits.isEmpty && digits.all Char.isDigit then
    let n := digits.foldl (fun n c => n * 10 + (c.toNat - '0'.toNat)) 0
    if n ≤ 5 then some n else none
  else match s with
    | "off" => some 0
    | "" | "error" => some 1
    | "warn" => some 2
    | "info" => some 3
    | "debug" => some 4
    | "trace" => some 5
    | _ => none

/-- One directive. -/
structure Directive where
  /-- What the names of the parts that it is about begin with. -/
  target : Option (List Char) := none
  /-- The span that it asks for. -/
  span : Option (List Char) := none
  /-- The fields that it asks for. -/
  fields : List (List Char) := []
  /-- Whether it asks for the value of a field. -/
  asksValue : Bool := false
  /-- The number of levels that are kept. -/
  threshold : Nat := 5
  deriving DecidableEq, Repr

namespace Directive

/-- Where the reading of a directive stands. -/
inductive Phase where
  /-- Before the first character. -/
  | start
  /-- In a level or the name of a part. -/
  | word
  /-- In the name of a span, which began at a position. -/
  | span (first : Nat)
  /-- In a field, which began at a position. -/
  | field (first : Nat)
  /-- After the fields. -/
  | fields
  /-- After a span. -/
  | afterSpan
  /-- In a level after an equals sign, which began at a position. -/
  | level (first : Nat)

/-- Whether a directive can begin with a character. -/
def isStart (c : Char) : Bool :=
  c.isAlphanum || c == '-' || c == ':' || c == '_' || decide (0x80 ≤ c.toNat)

/-- The characters of a text from one position up to before another one. -/
def slice (text : List Char) (first next : Nat) : List Char := (text.take next).drop first

/-- A directive that asks for one more field, and for its value if there is an equals sign. -/
def addField (d : Directive) (cs : List Char) : Directive :=
  { d with
    fields := d.fields ++ [cs.takeWhile (· ≠ '=')]
    asksValue := d.asksValue || cs.contains '=' }

/-- Goes on by the character at a position of a text. -/
def step (text : List Char) (phase : Phase) (d : Directive) (i : Nat) (c : Char) :
    Option (Phase × Directive) :=
  match phase, c with
  | .start, '[' => some (.span (i + 1), d)
  | .start, c => if isStart c then some (.word, d) else none
  | .word, '=' => some (.level (i + 1), { d with target := some (text.take i) })
  | .word, '[' => some (.span (i + 1), { d with target := some (text.take i) })
  | .word, _ => some (.word, d)
  | .span first, ']' => some (.afterSpan, { d with span := some (slice text first i) })
  | .span first, '{' =>
    some (.field (i + 1), if first = i then d else { d with span := some (slice text first i) })
  | .span first, _ => some (.span first, d)
  | .field first, '}' =>
    if first = i then none else some (.fields, d.addField (slice text first i))
  | .field first, _ => some (.field first, d)
  | .fields, ']' => some (.afterSpan, d)
  | .fields, _ => none
  | .afterSpan, '=' => some (.level (i + 1), d)
  | .afterSpan, _ => none
  | .level first, _ => some (.level first, d)

/-- Goes on by characters, the first of them at a position of a text. -/
def steps (text : List Char) (phase : Phase) (d : Directive) (i : Nat) :
    List Char → Option (Phase × Directive)
  | [] => some (phase, d)
  | c :: cs => (step text phase d i c).bind fun (phase, d) => steps text phase d (i + 1) cs

/-- Ends the reading of a directive. -/
def finish (text : List Char) (phase : Phase) (d : Directive) : Option Directive :=
  match phase with
  | .word =>
    match threshold? text with
    | some threshold => some { d with threshold }
    | none => some { d with target := some text }
  | .level first =>
    match text.drop first with
    | [] => some d
    | cs => (threshold? cs).map fun threshold => { d with threshold }
  | .afterSpan => some d
  | .start | .span _ | .field _ | .fields => none

/-- The directive that a text spells.  Blanks around it are not read, but they stay part of its
words. -/
def read? (text : List Char) : Option Directive :=
  (steps text .start {} 0 (Text.trim text)).bind fun (phase, d) => finish text phase d

/-- Whether the name of a part of the program begins as a directive says. -/
def fitsArea (d : Directive) (area : Area) : Bool :=
  (d.target.getD []).isPrefixOf area.name.toList

/-- Whether a directive asks for no other fields than these, and for none of their values. -/
def asksOnly (d : Directive) (fields : List String) : Bool :=
  !d.asksValue && d.fields.all fun field => fields.contains (String.ofList field)

/-- Whether a directive is about the records of a part of the program themselves. -/
def isAbout (d : Directive) (area : Area) : Bool :=
  d.span.isNone && d.asksOnly ["message"] && d.fitsArea area

/-- Whether a directive asks for a span and gets the one during which a part of the program makes
its records. -/
def isAboutSpan (d : Directive) (area : Area) : Bool :=
  (d.span.isSome || !d.fields.isEmpty) &&
    match area.span? with
    | some span =>
      d.fitsArea area && d.span.all (String.ofList · == span.name) && d.asksOnly span.fields
    | none => false

/-- Whether a directive is at most as special as another one: the longer word counts first, then
the number of fields. -/
def notMoreSpecial (d e : Directive) : Bool :=
  let weight (d : Directive) : Nat := d.target.elim 0 fun cs => cs.length + 1
  decide (weight d < weight e) ||
    (decide (weight d = weight e) && decide (d.fields.length ≤ e.fields.length))

end Directive

/-- The stretches of a list of characters between commas, at least one. -/
def splitCommas (cs : List Char) : List (List Char) :=
  cs.foldr (fun c acc => if c = ',' then [] :: acc else
    match acc with
    | part :: parts => (c :: part) :: parts
    | [] => [[c]]) [[]]

/-- The directives that a text spells; the empty text asks for errors only. -/
def directives? (s : String) : Option (List Directive) :=
  if s.isEmpty then some [{ threshold := 1 }] else (splitCommas s.toList).mapM Directive.read?

/-- The directives in force: those of the environment, or else those of the settings, or else
`info` for everything. -/
def directives (fromEnvironment : Option String) (fromSettings : String) : List Directive :=
  ((fromEnvironment.bind directives?).or (directives? fromSettings)).getD [{ threshold := 3 }]

/-- The directive that decides about a part of the program. -/
def deciding? (ds : List Directive) (area : Area) : Option Directive :=
  (ds.filter (·.isAbout area)).foldl (fun best d => match best with
    | some b => if b.notMoreSpecial d then some d else some b
    | none => some d) none

/-- Whether a record is kept. -/
def isKept (ds : List Directive) (r : Record) : Bool :=
  ds.any (fun d => d.isAboutSpan r.area && decide (r.level.rank ≤ d.threshold)) ||
    (deciding? ds r.area).any fun d => decide (r.level.rank ≤ d.threshold)

end Showcase.Journal
