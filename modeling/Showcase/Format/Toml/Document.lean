import Showcase.Format.Toml.Node

/-!
# Documents of TOML

A document is a list of statements, one a line: headers, headers in double brackets, and
assignments.  `statements?` reads them and `build?` applies them one after the other to the empty
table.  `read?` does both, after an optional byte order mark.

A value that is written out with brackets or braces may nest at most `deepest` levels.
-/

namespace Showcase.Toml

/-- One statement of a document; a path and the key at its end. -/
inductive Statement where
  /-- Statements that follow speak of this table. -/
  | header (path : List String) (key : String)
  /-- Statements that follow speak of a new table of this series. -/
  | series (path : List String) (key : String)
  /-- A value is assigned in the table spoken of. -/
  | assign (path : List String) (key : String) (value : Node)

/-! ## Keys -/

/-- Whether a character may stand in a key without quotes. -/
def isKeyChar (c : Char) : Bool := c.isAlphanum || c == '_' || c == '-'

/-- One part of a key at the head of a text, and what follows. -/
def keyPart? (cs : List Char) : Option (String × List Char) :=
  match cs with
  | '"' :: cs => (basic? (cs.length + 1) cs).map fun (text, rest) => (String.ofList text, rest)
  | '\'' :: cs => (literal? cs).map fun (text, rest) => (String.ofList text, rest)
  | cs =>
    match cs.takeWhile isKeyChar with
    | [] => none
    | bare => some (String.ofList bare, cs.dropWhile isKeyChar)

/-- A key of parts with points between them: the path, the last part, and what follows.  Blanks
may stand around the points. -/
def key? : Nat → List Char → Option (List String × String × List Char)
  | 0, _ => none
  | fuel + 1, cs => do
    let (part, cs) ← keyPart? cs
    match skipBlanks cs with
    | '.' :: cs =>
      let (path, last, rest) ← key? fuel (skipBlanks cs)
      return (part :: path, last, rest)
    | rest => return ([], part, rest)

/-! ## Values -/

/-- What follows a comment up to its line ending, which stays. -/
def comment? (cs : List Char) : Option (List Char) :=
  match cs with
  | '#' :: cs =>
    match cs.dropWhile isPlain with
    | [] => some []
    | rest => if (newline? rest).isSome then some rest else none
  | _ => none

/-- What follows blanks, comments and line endings. -/
def skipLines? : Nat → List Char → Option (List Char)
  | 0, _ => none
  | fuel + 1, cs =>
    match skipBlanks cs with
    | [] => some []
    | c :: cs =>
      if c = '#' then (comment? (c :: cs)).bind (skipLines? fuel)
      else match newline? (c :: cs) with
        | some rest => skipLines? fuel rest
        | none => some (c :: cs)

/-- Blanks, comments and line endings between the items of a value. -/
def skipBetween? (cs : List Char) : Option (List Char) := skipLines? (cs.length + 1) cs

/-- The greatest depth to which brackets and braces may nest. -/
def deepest : Nat := 80

mutual

/-- A value at the head of a text, at most `depth` levels deep, and what follows. -/
def value? : Nat → Nat → List Char → Option (Node × List Char)
  | 0, _, _ => none
  | fuel + 1, depth, cs =>
    match cs with
    | '[' :: cs =>
      match depth with
      | 0 => none
      | depth + 1 => do
        let (items, rest) ← items? fuel depth (← skipBetween? cs)
        return (.array items, rest)
    | '{' :: cs =>
      match depth with
      | 0 => none
      | depth + 1 => do
        let (rows, rest) ← pairs? fuel depth [] (← skipBetween? cs)
        return (.table .inline rows, rest)
    | cs => (scalar? cs).map fun (value, rest) => (.scalar value, rest)

/-- The items of an array up to its closing bracket. -/
def items? : Nat → Nat → List Char → Option (List Node × List Char)
  | 0, _, _ => none
  | fuel + 1, depth, cs =>
    match cs with
    | ']' :: rest => some ([], rest)
    | cs => do
      let (item, cs) ← value? fuel depth cs
      match ← skipBetween? cs with
      | ']' :: rest => return ([item], rest)
      | ',' :: cs =>
        let (items, rest) ← items? fuel depth (← skipBetween? cs)
        return (item :: items, rest)
      | _ => none

/-- The assignments of a table written out between braces, up to its closing brace. -/
def pairs? : Nat → Nat → Rows → List Char → Option (Rows × List Char)
  | 0, _, _, _ => none
  | fuel + 1, depth, rows, cs =>
    match cs with
    | '}' :: rest => some (rows, rest)
    | cs => do
      let (path, key, cs) ← key? (cs.length + 1) cs
      let '=' :: cs := cs | none
      let (value, cs) ← value? fuel depth (skipBlanks cs)
      let rows ← rows.assign? path key value
      match ← skipBetween? cs with
      | '}' :: rest => return (rows, rest)
      | ',' :: cs => pairs? fuel depth rows (← skipBetween? cs)
      | _ => none

end

/-! ## Statements -/

/-- What follows the rest of a line: blanks, a comment, and the line ending or the end. -/
def endLine? (cs : List Char) : Option (List Char) :=
  match skipBlanks cs with
  | [] => some []
  | c :: cs =>
    if c = '#' then (comment? (c :: cs)).map dropNewline
    else newline? (c :: cs)

/-- A statement at the head of a text, and what follows it on its line. -/
def statement? (cs : List Char) : Option (Statement × List Char) :=
  match cs with
  | '[' :: '[' :: cs => do
    let cs := skipBlanks cs
    let (path, key, cs) ← key? (cs.length + 1) cs
    let ']' :: ']' :: cs := cs | none
    return (.series path key, cs)
  | '[' :: cs => do
    let cs := skipBlanks cs
    let (path, key, cs) ← key? (cs.length + 1) cs
    let ']' :: cs := cs | none
    return (.header path key, cs)
  | cs => do
    let (path, key, cs) ← key? (cs.length + 1) cs
    let '=' :: cs := cs | none
    let cs := skipBlanks cs
    let (value, cs) ← value? (cs.length + 1) deepest cs
    return (.assign path key value, cs)

/-- The statements of a text. -/
def statements? : Nat → List Char → Option (List Statement)
  | 0, _ => none
  | fuel + 1, cs => do
    match ← skipBetween? cs with
    | [] => return []
    | cs =>
      let (statement, cs) ← statement? cs
      let rest ← statements? fuel (← endLine? cs)
      return statement :: rest

/-! ## Building the tree -/

/-- A document in progress: its rows, and the path of the table that statements speak of. -/
structure Draft where
  /-- The rows of the outermost table. -/
  rows : Rows := []
  /-- The path of the table spoken of. -/
  scope : List String := []

/-- The draft after one more statement. -/
def Draft.apply? (d : Draft) : Statement → Option Draft
  | .header path key => (d.rows.open? path key).map fun rows => ⟨rows, path ++ [key]⟩
  | .series path key => (d.rows.extend? path key).map fun rows => ⟨rows, path ++ [key]⟩
  | .assign path key value =>
    (Rows.alter? .implied (fun _ inner => inner.assign? path key value) d.scope .header d.rows).map
      fun rows => ⟨rows, d.scope⟩

/-- The rows that statements build. -/
def build? (statements : List Statement) : Option Rows :=
  (statements.foldlM Draft.apply? {}).map (·.rows)

/-- A text without the byte order mark at its head. -/
def dropMark (cs : List Char) : List Char :=
  match cs with
  | c :: rest => if c.toNat = 0xFEFF then rest else cs
  | [] => []

/-- The outermost table of a document. -/
def read? (s : String) : Option Rows := do
  let cs := dropMark s.toList
  build? (← statements? (cs.length + 1) cs)

end Showcase.Toml
