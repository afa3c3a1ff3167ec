import Showcase.Catalog.Basic

/-!
# Registries

A registry says which loader brings the source of a key.  Every key has a place, the *virtual path*
made of the base of the registry and the key, and the loaders stand at such places.  A loader can
also be put at a place directly.  Of two loaders put at one place the later one stays.

The slots are kept in the order of their places, so `Registry.paths` is sorted and has no
repetition.  What a loader is does not matter here; a registry works over any type of them.
-/

namespace Showcase

/-- Characters without the slashes at their end. -/
def Registry.trimSlashes (cs : List Char) : List Char :=
  (cs.reverse.dropWhile (· == '/')).reverse

/-- The place of a key under a base.  Slashes at the end of the base make no difference, and an
empty base adds nothing. -/
def Registry.virtualPath (base key : String) : String :=
  match Registry.trimSlashes base.toList with
  | [] => key
  | cs => String.ofList (cs ++ '/' :: key.toList)

/-- Which loader stands at which place. -/
structure Registry (α : Type) where
  /-- What the place of every key starts with. -/
  base : String
  /-- The loaders by place, places increasing. -/
  slots : List (String × α) := []

namespace Registry

variable {α : Type}

/-- Slots with a loader put at a place, in order of the places. -/
def putSlot (path : String) (loader : α) : List (String × α) → List (String × α)
  | [] => [(path, loader)]
  | (p, old) :: slots =>
    if path < p then (path, loader) :: (p, old) :: slots
    else if path = p then (path, loader) :: slots
    else (p, old) :: putSlot path loader slots

/-- The registry without loaders. -/
def empty (base : String) : Registry α := { base }

/-- A registry with a loader put at a place. -/
def putAt (r : Registry α) (path : String) (loader : α) : Registry α :=
  { r with slots := putSlot path loader r.slots }

/-- The place of a key. -/
def place (r : Registry α) (key : String) : String := virtualPath r.base key

/-- A registry with a loader put at the place of a key. -/
def put (r : Registry α) (key : String) (loader : α) : Registry α := r.putAt (r.place key) loader

/-- The loader at the place of a key. -/
def resolve? (r : Registry α) (key : String) : Option α := r.slots.lookup (r.place key)

/-- Whether a loader stands at the place of a key. -/
def contains (r : Registry α) (key : String) : Bool := (r.resolve? key).isSome

/-- The places at which loaders stand, increasing. -/
def paths (r : Registry α) : List String := r.slots.map (·.1)

/-- The number of loaders. -/
def size (r : Registry α) : Nat := r.slots.length

/-- A registry shown to a developer. -/
def debug (r : Registry α) : String :=
  "LoaderRegistry \x7b base: " ++ Text.quoted r.base ++ ", paths: [" ++
    ", ".intercalate (r.paths.map Text.quoted) ++ "] \x7d"

/-! ## Audit -/

/-- How a registry and a catalog differ. -/
structure Audit where
  /-- The keys without a loader, in the order of the catalog. -/
  missing : List String
  /-- The places with a loader that no key leads to, increasing. -/
  orphans : List String
  deriving DecidableEq, Repr

/-- Compares a registry with a catalog, in both directions. -/
def audit (r : Registry α) (c : Catalog) : Audit :=
  { missing := c.keys.filter (!r.contains ·)
    orphans := r.paths.filter (!(c.keys.map r.place).contains ·) }

/-- Whether registry and catalog agree. -/
def Audit.isClean (a : Audit) : Bool := a.missing.isEmpty && a.orphans.isEmpty

/-- The fault of a catalog with missing loaders, if that is not allowed. -/
def Audit.enforce (a : Audit) (strict : Bool) : Except Fault Unit :=
  if strict && !a.missing.isEmpty then .error (.uncovered a.missing) else .ok ()

end Registry

end Showcase
