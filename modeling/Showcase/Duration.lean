import Showcase.Text.Blank

/-!
# Durations

A duration is a number of nanoseconds whose whole seconds fit into 64 bits.  It has two spellings.

The *worded* one is read from and written to settings: `1h 15m`, `7days`, `0s`.  Reading takes
terms of a number, an optional decimal fraction and the name of a unit, and adds them up; blanks
may stand anywhere, even inside a number.  Every step of the sum must fit into 64 bits.

The *short* one names a single unit with a decimal fraction: `1.5s`, `750ms`, `0ns`.
-/

namespace Showcase

/-- A length of time. -/
structure Duration where
  /-- The length in nanoseconds. -/
  nanos : Nat
  deriving DecidableEq, Repr, Inhabited

namespace Duration

/-- The number of values of 64 bits. -/
def wordLimit : Nat := 18446744073709551616

/-- So many milliseconds. -/
def ofMillis (ms : Nat) : Duration := ⟨ms * 1000000⟩

/-- So many seconds. -/
def ofSeconds (s : Nat) : Duration := ⟨s * 1000000000⟩

/-- The whole seconds of a duration. -/
def seconds (d : Duration) : Nat := d.nanos / 1000000000

/-- The nanoseconds past the last whole second. -/
def subNanos (d : Duration) : Nat := d.nanos % 1000000000

/-- The whole milliseconds of a duration. -/
def millis (d : Duration) : Nat := d.nanos / 1000000

/-! ## Units -/

/-- The units that a worded duration names. -/
inductive TimeUnit where
  | nanosecond
  | microsecond
  | millisecond
  | second
  | minute
  | hour
  | day
  | week
  | month
  | year
  deriving DecidableEq, Repr

/-- The names under which a unit may be written. -/
def TimeUnit.names : TimeUnit → List String
  | .nanosecond => ["nanos", "nsec", "ns"]
  | .microsecond => ["usec", "us", "µs"]
  | .millisecond => ["millis", "msec", "ms"]
  | .second => ["seconds", "second", "secs", "sec", "s"]
  | .minute => ["minutes", "minute", "min", "mins", "m"]
  | .hour => ["hours", "hour", "hrs", "hr", "h"]
  | .day => ["days", "day", "d"]
  | .week => ["weeks", "week", "wks", "wk", "w"]
  | .month => ["months", "month", "M"]
  | .year => ["years", "year", "yrs", "yr", "y"]

/-- All units. -/
def TimeUnit.all : List TimeUnit :=
  [.nanosecond, .microsecond, .millisecond, .second, .minute, .hour, .day, .week, .month, .year]

/-- The unit with a name. -/
def TimeUnit.ofName? (name : String) : Option TimeUnit :=
  TimeUnit.all.find? (·.names.contains name)

/-- How a unit is counted: in so many nanoseconds, or in so many whole seconds. -/
inductive TimeUnit.Scale where
  | nanos (each : Nat)
  | seconds (each : Nat)

/-- The length of a unit.  A month is a twelfth of a year of 365.25 days. -/
def TimeUnit.scale : TimeUnit → TimeUnit.Scale
  | .nanosecond => .nanos 1
  | .microsecond => .nanos 1000
  | .millisecond => .nanos 1000000
  | .second => .seconds 1
  | .minute => .seconds 60
  | .hour => .seconds 3600
  | .day => .seconds 86400
  | .week => .seconds 604800
  | .month => .seconds 2630016
  | .year => .seconds 31557600

/-- How the fraction of a unit is counted: short units in nanoseconds, long ones in seconds, and
a nanosecond has no parts. -/
def TimeUnit.fractionScale? : TimeUnit → Option TimeUnit.Scale
  | .nanosecond => none
  | .microsecond => some (.nanos 1000)
  | .millisecond => some (.nanos 1000000)
  | .second => some (.nanos 1000000000)
  | .minute => some (.nanos 60000000000)
  | unit => some unit.scale

/-! ## Reading -/

/-- A number if it fits into 64 bits. -/
def fit? (n : Nat) : Option Nat := if n < wordLimit then some n else none

/-- A duration with seconds and nanoseconds added, if every sum fits. -/
def add? (d : Duration) (seconds nanos : Nat) : Option Duration := do
  let nanos ← fit? (d.subNanos + nanos)
  let seconds ← fit? (seconds + nanos / 1000000000)
  let seconds ← fit? (d.seconds + seconds)
  return ⟨seconds * 1000000000 + nanos % 1000000000⟩

/-- A duration with `n / parts` units of a scale added, if every product and sum fits. -/
def addScaled? (d : Duration) (scale : TimeUnit.Scale) (n parts : Nat) : Option Duration :=
  match scale with
  | .nanos each => (fit? (n * each)).bind fun total => d.add? 0 (total / parts)
  | .seconds each => (fit? (n * each)).bind fun total => d.add? (total / parts) 0

/-- One term of a worded duration. -/
structure Term where
  /-- The whole number. -/
  whole : Nat
  /-- The digits after the point, if there is one. -/
  fraction : Option (List Char)
  /-- The unit. -/
  unit : TimeUnit

/-- The number that decimal digits spell. -/
def decimal (ds : List Char) : Nat := ds.foldl (fun n c => n * 10 + (c.toNat - '0'.toNat)) 0

/-- A duration with a term added. -/
def addTerm? (d : Duration) (t : Term) : Option Duration := do
  let whole ← fit? t.whole
  let d ← d.addScaled? t.unit.scale whole 1
  match t.fraction with
  | none => return d
  | some ds =>
    let parts ← fit? (Nat.pow 10 ds.length)
    let scale ← t.unit.fractionScale?
    d.addScaled? scale (decimal ds) parts

/-- Whether a character may stand in the name of a unit. -/
def isUnitChar (c : Char) : Bool := c.isAlpha || c == 'µ'

/-- Digits with blanks between them, the blanks left out, and what follows. -/
def spacedDigits (cs : List Char) : List Char × List Char :=
  let isPart c := c.isDigit || Text.isBlank c
  ((cs.takeWhile isPart).filter Char.isDigit, cs.dropWhile isPart)

/-- A term at the head of a text, and what follows. -/
def term? (cs : List Char) : Option (Term × List Char) := do
  let first :: _ := cs | none
  if !first.isDigit then none
  let (whole, cs) := spacedDigits cs
  let (fraction, cs) ← match cs with
    | '.' :: cs =>
      let (ds, cs) := spacedDigits cs
      if ds.isEmpty then none else some (some ds, cs)
    | cs => some (none, cs)
  let unit ← TimeUnit.ofName? (String.ofList (cs.takeWhile isUnitChar))
  return (⟨decimal whole, fraction, unit⟩, cs.dropWhile isUnitChar)

/-- The terms of a text, at least one. -/
def terms? : Nat → List Char → Option (List Term)
  | 0, _ => none
  | fuel + 1, cs => do
    let (term, rest) ← term? (cs.dropWhile Text.isBlank)
    if rest.all Text.isBlank then return [term]
    let terms ← terms? fuel rest
    return term :: terms

/-- The duration that a text words. -/
def read? (s : String) : Option Duration :=
  if s = "0" then some ⟨0⟩
  else
    let cs := s.toList
    (terms? (cs.length + 1) cs).bind fun terms => terms.foldlM addTerm? ⟨0⟩

/-! ## Writing -/

/-- A count with the name of its unit, in the plural if there are several, or nothing for zero. -/
def counted (plural : String) (n : Nat) (name : String) : List String :=
  if n = 0 then [] else [toString n ++ name ++ (if 1 < n then plural else "")]

/-- A duration in words, the largest units first. -/
def worded (d : Duration) : String :=
  if d.nanos = 0 then "0s"
  else
    let inYear := d.seconds % 31557600
    let inMonth := inYear % 2630016
    let inDay := inMonth % 86400
    let sub := d.subNanos
    " ".intercalate (
      counted "s" (d.seconds / 31557600) "year" ++
      counted "s" (inYear / 2630016) "month" ++
      counted "s" (inMonth / 86400) "day" ++
      counted "" (inDay / 3600) "h" ++
      counted "" (inDay % 3600 / 60) "m" ++
      counted "" (inDay % 60) "s" ++
      counted "" (sub / 1000000) "ms" ++
      counted "" (sub / 1000 % 1000) "us" ++
      counted "" (sub % 1000) "ns")

/-- A number with `places` decimal places, without the zeros at the end and without a bare
point. -/
def decimalText (n places : Nat) : String :=
  let scale := Nat.pow 10 places
  let digits := Nat.toDigits 10 (n % scale)
  let padded := List.replicate (places - digits.length) '0' ++ digits
  let kept := (padded.reverse.dropWhile (· == '0')).reverse
  if n % scale = 0 then toString (n / scale)
  else toString (n / scale) ++ "." ++ String.ofList kept

/-- A duration with its largest fitting unit of seconds, milliseconds, microseconds and
nanoseconds. -/
def short (d : Duration) : String :=
  if 1000000000 ≤ d.nanos then decimalText d.nanos 9 ++ "s"
  else if 1000000 ≤ d.nanos then decimalText d.nanos 6 ++ "ms"
  else if 1000 ≤ d.nanos then decimalText d.nanos 3 ++ "µs"
  else toString d.nanos ++ "ns"

end Duration

end Showcase
