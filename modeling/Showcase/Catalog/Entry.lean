import Showcase.Fault
import Showcase.Text.Blank

/-!
# Entries

An entry describes one sample program: the key under which its source is found, a title, a
category and a description.  The source itself is never part of it.
-/

namespace Showcase

/-- One sample program, described. -/
structure Entry where
  /-- The name under which the source is found, unique in a catalog. -/
  key : String
  /-- The title shown in the list. -/
  title : String
  /-- The group the entry belongs to. -/
  category : String
  /-- A line about the sample. -/
  description : String := ""
  deriving DecidableEq, Repr, Inhabited

namespace Entry

/-- What keeps an entry out of every catalog: a blank key, or else a blank category. -/
def flaw? (e : Entry) : Option Fault :=
  if Text.isBlankText e.key then some (.invalidEntry "key" "must not be empty")
  else if Text.isBlankText e.category then
    some (.invalidEntry "category" ("entry " ++ e.key ++ " has no category"))
  else none

/-- An entry is usable when neither its key nor its category is blank. -/
def Usable (e : Entry) : Prop :=
  Text.isBlankText e.key = false ∧ Text.isBlankText e.category = false

instance (e : Entry) : Decidable e.Usable := inferInstanceAs (Decidable (_ ∧ _))

theorem flaw?_eq_none_iff {e : Entry} : e.flaw? = none ↔ e.Usable := by
  unfold flaw? Usable
  cases Text.isBlankText e.key <;> cases Text.isBlankText e.category <;> simp

end Entry

end Showcase
