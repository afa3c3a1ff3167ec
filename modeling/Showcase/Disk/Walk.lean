import Showcase.Disk.Tree

/-!
# Walking a directory

A walk visits a directory and everything below it, through links too, and lists the files it
meets.  It gives up at a link that leads nowhere, at a missing directory, and at a link that leads
back to a directory it stands in.

The depth of a walk is bounded: a link is only followed to a directory that the walk does not
stand in, and between two links it can only go down the tree.
-/

namespace Showcase.Disk

/-- A file met on a walk. -/
structure Found where
  /-- The names from the start of the walk to the file. -/
  names : List String
  /-- The path under which the walk met the file. -/
  path : String
  deriving DecidableEq, Repr

/-- A directory that a walk stands in. -/
structure Ancestor where
  /-- Where the directory really stands. -/
  place : Place
  /-- The path under which the walk entered it. -/
  path : String

/-- Why a walk gives up. -/
inductive Obstacle where
  /-- Something on the way could not be used. -/
  | failed (path : String) (failure : Failure)
  /-- A link leads back to a directory that the walk stands in. -/
  | loop (path ancestor : String)
  deriving DecidableEq, Repr

/-- What an obstacle says to the reader. -/
def Obstacle.message : Obstacle → String
  | failed path failure => "IO error for operation on " ++ path ++ ": " ++ failure.text
  | loop path ancestor =>
    "File system loop found: " ++ path ++ " points to an ancestor " ++ ancestor

/-- A link met under a path, followed: the thing at its end, unless it is a directory that the
walk stands in, the innermost of which is named. -/
def followLink (d : Disk) (above : List Ancestor) (path : String) :
    Except Obstacle (Place × Item) :=
  match d.locate path true with
  | .error failure => .error (.failed path failure)
  | .ok (place, .dir items) =>
    match above.find? (·.place == place) with
    | some ancestor => .error (.loop path ancestor.path)
    | none => .ok (place, .dir items)
  | .ok found => .ok found

/-- The files in and below an item met under a path, with the directories above it, innermost
first. -/
def visit (d : Disk) : Nat → List Ancestor → List String → String → Place → Item →
    Except Obstacle (List Found)
  | 0, _, _, path, _, _ => .error (.failed path .tooManyLinks)
  | depth + 1, above, names, path, place, item => do
    let (place, item) ← match item with
      | .link _ => followLink d above path
      | item => .ok (place, item)
    match item with
    | .file _ => return [⟨names, path⟩]
    | .link _ => return []
    | .dir items =>
      let inside ← items.mapM fun (name, item) =>
        visit d depth (⟨place, path⟩ :: above) (names ++ [name]) (Path.join path name)
          (place ++ [name]) item
      return inside.flatten

/-- The files in and below the directory that a path names. -/
def walk (d : Disk) (path : String) : Except Obstacle (List Found) :=
  match d.locate path false with
  | .error failure => .error (.failed path failure)
  | .ok (place, item) => visit d ((d.tree.count + 1) * (d.tree.count + 1)) [] [] path place item

end Showcase.Disk
