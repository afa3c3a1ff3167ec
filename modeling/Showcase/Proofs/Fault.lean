import Mathlib.Logic.Function.Iterate
import Showcase.Fault

/-!
# Copies of a fault

A fault can be copied any number of times before it is shown.  The first copy settles everything: a
copy of a copy is the same copy (`Fault.shared_shared`), so all of them are
(`Fault.iterate_shared`).

What a copy has in common with the fault is `Fault.Resembles`.  It holds of every fault but those of
the readers of the two formats, whose copies are `other` faults.  What a reader of a copy is told is
said once for all faults by `Fault.heard`, which knows nothing of copies.
-/

namespace Showcase.Fault

/-- Whether a text in one of the two formats could not be read. -/
def isUnreadable : Fault → Bool
  | unreadableToml _ | unreadableJson _ => true
  | _ => false

/-- What everyone is told who gets a copy of a fault. -/
def heard : Fault → String
  | unreadableToml detail => "Unexpected error: Config error: " ++ detail
  | unreadableJson detail => "Unexpected error: Serde error: " ++ detail
  | fault => fault.message

/-- What a copy of a fault has in common with it. -/
structure Resembles (copy fault : Fault) : Prop where
  /-- The cause is the same. -/
  cause : copy.ctorIdx = fault.ctorIdx
  /-- The message is the same. -/
  message : copy.message = fault.message
  /-- A missing loader is told from the rest. -/
  isNoLoader : copy.isNoLoader = fault.isNoLoader
  /-- A failure of the disk is of the same kind. -/
  kind : copy.diskFailure?.map Disk.Failure.kind = fault.diskFailure?.map Disk.Failure.kind
  /-- Only in a failure of the disk can there be a difference. -/
  whole : fault.diskFailure? = none → copy = fault

theorem Resembles.refl (fault : Fault) : fault.Resembles fault where
  cause := rfl
  message := rfl
  isNoLoader := rfl
  kind := rfl
  whole := fun _ => rfl

/-! ## One copy -/

/-- Words and kind of a failure are what its copy is made of, so the copy has them already. -/
theorem shared_shared (fault : Fault) : fault.shared.shared = fault.shared := by
  cases fault <;> rfl

/-- The detail of an `other` fault starts with the words for the reader that found it. -/
theorem message_other_append (words detail : String) :
    (other (words ++ detail)).message = "Unexpected error: " ++ words ++ detail :=
  String.append_assoc.symm

theorem message_shared (fault : Fault) : fault.shared.message = fault.heard := by
  cases fault with
  | unreadableToml detail => exact message_other_append "Config error: " detail
  | unreadableJson detail => exact message_other_append "Serde error: " detail
  | _ => rfl

theorem resembles_shared {fault : Fault} (readable : fault.isUnreadable = false) :
    fault.shared.Resembles fault := by
  cases fault with
  | disk failure => exact ⟨rfl, rfl, rfl, rfl, nofun⟩
  | unreadableFile path failure => exact ⟨rfl, rfl, rfl, rfl, nofun⟩
  | unreadableToml detail => cases readable
  | unreadableJson detail => cases readable
  | _ => exact Resembles.refl _

/-! ## Copies of copies -/

/-- Every copy is the first one. -/
theorem iterate_shared (fault : Fault) (n : Nat) : shared^[n + 1] fault = fault.shared := by
  rw [Function.iterate_succ_apply]
  exact Function.iterate_fixed fault.shared_shared n

theorem resembles_iterate {fault : Fault} (readable : fault.isUnreadable = false) (n : Nat) :
    (shared^[n] fault).Resembles fault := by
  cases n with
  | zero => exact Resembles.refl fault
  | succ n =>
      rw [iterate_shared]
      exact resembles_shared readable

end Showcase.Fault
