import Showcase.Format.Toml.Scalar

/-!
# Trees of TOML

A document is a tree of tables that its statements build up.  A table remembers how it came to be,
since that decides which later statements may add to it:

* one that a header names, `[a.b]`, is named once;
* one that a longer header implies may still be named by a header of its own;
* one that a dotted key makes takes further dotted keys and longer headers, but no header of its
  own;
* one that is written out between braces takes nothing.

A header in double brackets, `[[a.b]]`, adds a table to a series, and later statements speak of the
last table of a series.

`Rows.alter?` follows a path of keys and edits the table at its end.  The three statements are
edits: `Rows.assign?`, `Rows.open?` and `Rows.extend?`.
-/

namespace Showcase.Toml

/-- How a table came to be. -/
inductive Origin where
  /-- A header names it. -/
  | header
  /-- A longer header implies it. -/
  | implied
  /-- A dotted key makes it. -/
  | dotted
  /-- It is written out between braces. -/
  | inline
  deriving DecidableEq, Repr

/-- A value with its parts. -/
inductive Node where
  /-- A value without parts. -/
  | scalar (value : Scalar)
  /-- An array written out between brackets. -/
  | array (items : List Node)
  /-- A table. -/
  | table (origin : Origin) (rows : List (String × Node))
  /-- The tables that headers in double brackets added, in order. -/
  | series (items : List Node)
  deriving Inhabited

/-- The keys and values of a table, in order. -/
abbrev Rows := List (String × Node)

/-- The rows with the value of a key replaced. -/
def Rows.replace (key : String) (node : Node) : Rows → Rows
  | [] => []
  | (k, old) :: rows =>
    if k = key then (k, node) :: rows else (k, old) :: Rows.replace key node rows

/-- The rows with a key and value added at the end. -/
def Rows.add (rows : Rows) (key : String) (node : Node) : Rows := rows ++ [(key, node)]

/-- Whether a path made in the given way may lead through a table. -/
def Origin.admits (origin via : Origin) : Bool :=
  match origin, via with
  | .inline, _ => false
  | .header, .dotted => false
  | _, _ => true

/-- Follows a path of keys from a table and edits the rows of the table at its end.  Tables that
are missing on the way are made, with the origin `via`.  The edit is told the origin of the table
that it edits. -/
def Rows.alter? (via : Origin) (edit : Origin → Rows → Option Rows) :
    List String → Origin → Rows → Option Rows
  | [], origin, rows => edit origin rows
  | key :: path, _, rows =>
    match rows.lookup key with
    | none => do
      let inner ← Rows.alter? via edit path via []
      return rows.add key (.table via inner)
    | some (.table origin inner) =>
      if origin.admits via then do
        let inner ← Rows.alter? via edit path origin inner
        return rows.replace key (.table origin inner)
      else none
    | some (.series items) =>
      match items.getLast?, via with
      | some (.table origin inner), .implied => do
        let inner ← Rows.alter? via edit path origin inner
        return rows.replace key (.series (items.dropLast ++ [.table origin inner]))
      | _, _ => none
    | some _ => none

/-- A value assigned to a dotted key: the tables on the way must be made by dotted keys alone, and
the last key must be new. -/
def Rows.assign? (path : List String) (key : String) (value : Node) (rows : Rows) :
    Option Rows :=
  Rows.alter? .dotted
    (fun origin inner =>
      if (origin = .dotted ∨ path = []) ∧ inner.lookup key = none then some (inner.add key value)
      else none)
    path .header rows

/-- A header: the table at the end of the path is made, or named if it was only implied. -/
def Rows.open? (path : List String) (key : String) (rows : Rows) : Option Rows :=
  Rows.alter? .implied
    (fun _ inner =>
      match inner.lookup key with
      | none => some (inner.add key (.table .header []))
      | some (.table .implied old) => some (inner.replace key (.table .header old))
      | some _ => none)
    path .header rows

/-- A header in double brackets: an empty table is added to the series at the end of the path. -/
def Rows.extend? (path : List String) (key : String) (rows : Rows) : Option Rows :=
  Rows.alter? .implied
    (fun _ inner =>
      match inner.lookup key with
      | none => some (inner.add key (.series [.table .header []]))
      | some (.series items) =>
        some (inner.replace key (.series (items ++ [.table .header []])))
      | some _ => none)
    path .header rows

/-! ## Reading a tree -/

/-- The text of a string. -/
def Node.text? : Node → Option String
  | .scalar (.string text) => some text
  | _ => none

/-- A truth value. -/
def Node.bool? : Node → Option Bool
  | .scalar (.bool value) => some value
  | _ => none

/-- A number that fits into 64 bits without a sign. -/
def Node.word? : Node → Option Nat
  | .scalar (.integer value) => if 0 ≤ value ∧ value < 18446744073709551616 then some value.toNat else none
  | _ => none

/-- The items of an array or of a series. -/
def Node.items? : Node → Option (List Node)
  | .array items | .series items => some items
  | _ => none

/-- The rows of a table.  A moment counts as a table of which no key is known. -/
def Node.rows? : Node → Option Rows
  | .table _ rows => some rows
  | .scalar (.moment _) => some []
  | _ => none

end Showcase.Toml
