import Showcase.Catalog.Basic
import Showcase.Text.Infix
import Showcase.Text.Lowercase

/-!
# Filters

A filter keeps the entries of one category that mention a search text.  The category `All` keeps
every entry, and so does a blank search.  Letter case does not matter: the search and the three
searched fields are compared in lowercase.  A filter only drops entries and never reorders them,
and `Filter.indices` gives the kept entries by their place in the list.
-/

namespace Showcase

/-- What the list is narrowed to. -/
structure Filter where
  /-- The chosen category. -/
  category : String := Catalog.everything
  /-- The search text as typed. -/
  query : String := ""
  deriving DecidableEq, Repr, Inhabited

namespace Filter

/-- Whether an entry is of the chosen category. -/
def inCategory (f : Filter) (e : Entry) : Bool :=
  f.category == Catalog.everything || e.category == f.category

/-- Whether a text holds the search text, in any letter case. -/
def mentions (query text : String) : Bool :=
  Text.occursIn (Text.lowerChars query.toList) (Text.lowerChars text.toList)

/-- Whether an entry answers the search. -/
def answers (f : Filter) (e : Entry) : Bool :=
  Text.isBlankText f.query ||
    (mentions f.query e.key || mentions f.query e.title || mentions f.query e.description)

/-- Whether a filter keeps an entry. -/
def keeps (f : Filter) (e : Entry) : Bool := f.inCategory e && f.answers e

/-- The entries a filter keeps. -/
def select (f : Filter) (es : List Entry) : List Entry := es.filter f.keeps

/-- The places of the kept entries in a list whose first place is `start`. -/
def indicesFrom (f : Filter) (start : Nat) : List Entry → List Nat
  | [] => []
  | e :: es =>
    if f.keeps e then start :: f.indicesFrom (start + 1) es else f.indicesFrom (start + 1) es

/-- The places of the kept entries. -/
def indices (f : Filter) (es : List Entry) : List Nat := f.indicesFrom 0 es

/-- Whether a filter narrows the list at all. -/
def isActive (f : Filter) : Bool :=
  f.category != Catalog.everything || !Text.isBlankText f.query

/-! ## Editing a filter -/

/-- The filter with another category. -/
def setCategory (f : Filter) (category : String) : Filter := { f with category }

/-- The filter whose category stands `step` places further round in a list of categories; a
category that is not in the list gives way to the first one. -/
def stepCategory (f : Filter) (categories : List String) (step : Nat) : Filter :=
  let next := match categories.findIdx? (· == f.category) with
    | some i => (i + step) % categories.length
    | none => 0
  { f with category := categories.getD next f.category }

/-- The filter with the next category, the first after the last. -/
def nextCategory (f : Filter) (categories : List String) : Filter := f.stepCategory categories 1

/-- The filter with the category before, the last before the first. -/
def prevCategory (f : Filter) (categories : List String) : Filter :=
  f.stepCategory categories (categories.length - 1)

/-- The filter with one more character searched for. -/
def push (f : Filter) (c : Char) : Filter := { f with query := f.query.push c }

/-- The filter with the last character of the search dropped, if there is one. -/
def pop? (f : Filter) : Option Filter :=
  match f.query.toList with
  | [] => none
  | cs => some { f with query := String.ofList cs.dropLast }

/-- The filter that searches for nothing. -/
def clearQuery (f : Filter) : Filter := { f with query := "" }

/-- A filter shown to a developer. -/
def debug (f : Filter) : String :=
  "FilterState \x7b category: " ++ Text.quoted f.category ++ ", query: " ++ Text.quoted f.query ++
    " \x7d"

end Filter

end Showcase
