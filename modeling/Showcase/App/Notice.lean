/-!
# Notices

A notice tells the user that something happened.  Some go away by themselves after a while; those
of a fault stay until they are dismissed.
-/

namespace Showcase

/-- What kind of thing a notice tells. -/
inductive Notice.Level where
  | info
  | warning
  | error
  | success
  deriving DecidableEq, Repr

/-- The name of a level. -/
def Notice.Level.name : Notice.Level → String
  | info => "Info"
  | warning => "Warning"
  | error => "Error"
  | success => "Success"

/-- The level with a name. -/
def Notice.Level.ofName? (name : String) : Option Notice.Level :=
  [info, warning, error, success].find? (·.name == name)

/-- A notice on display. -/
structure Notice where
  /-- What it tells. -/
  level : Notice.Level
  /-- Its words. -/
  message : String
  /-- When it was first shown, in milliseconds. -/
  shownAt : Nat
  /-- How long it may be shown, in milliseconds, if it goes away by itself. -/
  lifeMs : Option Nat
  deriving DecidableEq, Repr

/-- Whether a notice has been shown long enough. -/
def Notice.isOver (n : Notice) (now : Nat) : Bool :=
  match n.lifeMs with
  | some ms => decide (ms < now - n.shownAt)
  | none => false

end Showcase
