/-!
# Glob patterns

A pattern is matched against a whole path.  `?` stands for one character, `*` for any run of
characters inside one name, `[ab]`, `[a-z]` and `[!a]` for one character in or not in a set, and
`**`, alone between slashes, for any number of directories.  None of them matches a slash where a
name ends or a point at the start of a name; those must be written out.

`Glob.parse` reads a pattern into tokens and names the place of a fault.  `Glob.run` is the search
for a match.  It tells two kinds of failure apart: `stuck` says that another way of reading an
earlier wildcard may still succeed, `exhausted` says that the path is too short for every such way,
and ends the search at once.
-/

namespace Showcase.Glob

/-! ## Patterns -/

/-- A character or a range of characters in a set. -/
inductive CharSpec where
  | single (c : Char)
  | range (first last : Char)
  deriving DecidableEq, Repr

/-- A part of a pattern. -/
inductive Token where
  /-- This character. -/
  | char (c : Char)
  /-- Any one character. -/
  | anyChar
  /-- Any run of characters inside a name. -/
  | anyRun
  /-- Any number of directories. -/
  | anyDirs
  /-- One character of a set. -/
  | within (specs : List CharSpec)
  /-- One character outside a set. -/
  | except (specs : List CharSpec)
  deriving DecidableEq, Repr

/-- What is wrong with a pattern. -/
inductive Flaw where
  /-- More than two stars stand together. -/
  | tooManyStars
  /-- Two stars do not stand alone between slashes. -/
  | starsNotAlone
  /-- A bracket is not closed around at least one character. -/
  | badRange
  deriving DecidableEq, Repr

/-- What a flaw says to the reader. -/
def Flaw.text : Flaw → String
  | tooManyStars => "wildcards are either regular `*` or recursive `**`"
  | starsNotAlone => "recursive wildcards must form a single path component"
  | badRange => "invalid range pattern"

/-- A flaw and the number of characters before it. -/
structure Fault where
  /-- The number of characters before the flaw. -/
  position : Nat
  /-- The flaw. -/
  flaw : Flaw
  deriving DecidableEq, Repr

/-- What a faulty pattern says to the reader. -/
def Fault.message (f : Fault) : String :=
  "Pattern syntax error near position " ++ toString f.position ++ ": " ++ f.flaw.text

/-- The characters and ranges between two brackets. -/
def specs : List Char → List CharSpec
  | a :: '-' :: b :: cs => .range a b :: specs cs
  | a :: cs => .single a :: specs cs
  | [] => []

/-- The set after an opening bracket, and what follows it.  The first character of a set may be a
closing bracket. -/
def set? (cs : List Char) : Option (Token × List Char) :=
  let (negated, cs) := match cs with
    | '!' :: cs => (true, cs)
    | cs => (false, cs)
  match cs with
  | [] => none
  | first :: cs =>
    match cs.dropWhile (· ≠ ']') with
    | [] => none
    | _ :: rest =>
      let members := specs (first :: cs.takeWhile (· ≠ ']'))
      some (if negated then .except members else .within members, rest)

/-- Whether two directory wildcards in a row become one: they do unless the first one opens the
pattern. -/
def merges (tokens : List Token) : Bool :=
  match tokens with
  | .anyDirs :: _ :: _ => true
  | _ => false

/-- Reads a pattern from a position on; `done` holds the tokens before it, the last one first, and
`before` the character before it. -/
def parseFrom : Nat → Nat → Option Char → List Token → List Char → Except Fault (List Token)
  | 0, position, _, _, _ => .error ⟨position, .badRange⟩
  | fuel + 1, position, before, done, cs =>
    match cs with
    | [] => .ok done.reverse
    | '?' :: rest => parseFrom fuel (position + 1) (some '?') (.anyChar :: done) rest
    | '*' :: '*' :: '*' :: _ => .error ⟨position + 2, .tooManyStars⟩
    | '*' :: '*' :: rest =>
      if before.isSome && before ≠ some '/' then .error ⟨position - 1, .starsNotAlone⟩
      else
        let done := if merges done then done else .anyDirs :: done
        match rest with
        | [] => .ok done.reverse
        | '/' :: rest => parseFrom fuel (position + 3) (some '/') done rest
        | _ => .error ⟨position + 2, .starsNotAlone⟩
    | '*' :: rest => parseFrom fuel (position + 1) (some '*') (.anyRun :: done) rest
    | '[' :: rest =>
      match set? rest with
      | none => .error ⟨position, .badRange⟩
      | some (token, after) =>
        parseFrom fuel (position + 1 + (rest.length - after.length)) (some ']') (token :: done) after
    | c :: rest => parseFrom fuel (position + 1) (some c) (.char c :: done) rest

/-- The tokens of a pattern. -/
def parse (pattern : String) : Except Fault (List Token) :=
  parseFrom (pattern.toList.length + 1) 0 none [] pattern.toList

/-! ## Matching -/

/-- How a search for a match ends. -/
inductive Outcome where
  | matched
  | stuck
  | exhausted
  deriving DecidableEq, Repr

/-- Whether a character or range of a set holds a character. -/
def CharSpec.holds (c : Char) : CharSpec → Bool
  | .single a => c == a
  | .range a b => a ≤ c && c ≤ b

/-- Whether a token for one character takes a character.  `atStart` says that a name starts
here. -/
def Token.takes (token : Token) (atStart : Bool) (c : Char) : Bool :=
  let free := c ≠ '/' && !(atStart && c == '.')
  match token with
  | .char a => c == a
  | .anyChar => free
  | .within specs => free && specs.any (·.holds c)
  | .except specs => free && !specs.any (·.holds c)
  | .anyRun | .anyDirs => false

/-- Tries what follows a wildcard at every place that the wildcard may end, after at least one
character.  A wildcard for directories ends only after a slash and one for a run never takes a
slash; neither takes a point at the start of a name.  At the end of the path what follows is tried
once more. -/
def spread (dirs : Bool) (next : Bool → List Char → Outcome) : Bool → List Char → Outcome
  | atStart, [] => next atStart []
  | atStart, c :: cs =>
    if atStart && c == '.' then .stuck
    else
      let slash := c == '/'
      if dirs && !slash then spread dirs next slash cs
      else if !dirs && slash then .stuck
      else match next slash cs with
        | .stuck => spread dirs next slash cs
        | outcome => outcome

/-- Searches for a match of tokens with a path; `atStart` says that a name starts here. -/
def run : List Token → Bool → List Char → Outcome
  | [], _, [] => .matched
  | [], _, _ :: _ => .stuck
  | token :: tokens, atStart, cs =>
    match token with
    | .anyRun | .anyDirs =>
      match run tokens atStart cs with
      | .stuck => spread (token == .anyDirs) (run tokens) atStart cs
      | outcome => outcome
    | token =>
      match cs with
      | [] => .exhausted
      | c :: cs => if token.takes atStart c then run tokens (c == '/') cs else .stuck

/-- Whether a pattern matches a path. -/
def isMatch (tokens : List Token) (path : String) : Bool :=
  run tokens true path.toList == .matched

end Showcase.Glob
