import Showcase.Disk.Failure
import Showcase.Disk.Path

/-!
# File trees

The part of a disk that the program sees: directories of named items, files with their text, and
links that stand for other paths.  A `Disk` is such a tree together with the working directory.

`Disk.locate` finds what a path names, following links the way the system does, and tells where in
the tree it really stands.  Two paths name the same thing exactly when they are located at one
place.
-/

namespace Showcase

/-- Something with a name in a directory. -/
inductive Disk.Item where
  /-- A file: its text, or `none` when its bytes are no text. -/
  | file (text : Option String)
  /-- A directory and the items in it. -/
  | dir (items : List (String × Disk.Item))
  /-- A link to another path. -/
  | link (target : String)
  deriving Inhabited

/-- The names that lead from the root to an item. -/
abbrev Disk.Place := List String

/-- A tree and the directory in which relative paths start. -/
structure Disk where
  /-- The items of the root. -/
  root : List (String × Disk.Item) := []
  /-- The working directory. -/
  work : Disk.Place := []

namespace Disk

/-! ## Items -/

namespace Item

/-- The item at a place inside an item, without following links. -/
def at? : Place → Item → Option Item
  | [], item => some item
  | name :: place, .dir items => (items.lookup name).bind (at? place)
  | _ :: _, _ => none

/-- The items of a directory with one of them set. -/
def set (name : String) (item : Item) : List (String × Item) → List (String × Item)
  | [] => [(name, item)]
  | (n, old) :: items => if n = name then (n, item) :: items else (n, old) :: set name item items

/-- A tree with an item put at a place; directories on the way are made as needed. -/
def put (item : Item) : Place → Item → Item
  | [], _ => item
  | name :: place, .dir items =>
    .dir (set name (put item place ((items.lookup name).getD (.dir []))) items)
  | name :: place, _ => .dir [(name, put item place (.dir []))]

/-- A tree without the item at a place. -/
def erase : Place → Item → Item
  | [name], .dir items => .dir (items.filter (·.1 ≠ name))
  | name :: place, .dir items =>
    match items.lookup name with
    | some inner => .dir (set name (erase place inner) items)
    | none => .dir items
  | _, item => item

end Item

mutual

/-- The number of items in and below an item. -/
def Item.count : Item → Nat
  | .file _ | .link _ => 1
  | .dir items => 1 + Item.countAll items

/-- The number of items in and below a list of items. -/
def Item.countAll : List (String × Item) → Nat
  | [] => 0
  | (_, item) :: items => item.count + Item.countAll items

end

/-! ## Looking up paths -/

/-- The tree of a disk as one item. -/
def tree (d : Disk) : Item := .dir d.root

/-- The item at a place of a disk. -/
def at? (d : Disk) (place : Place) : Option Item := d.tree.at? place

/-- The number of links that a path may lead through. -/
def linkLimit : Nat := 40

/-- Takes steps from a place.  A step must start in a directory; a link stands for the steps of
its target, and the last one is followed only if `follow` says so.  At most `links` links are
followed. -/
def step (d : Disk) (follow : Bool) (links : Nat) (place : Place) (steps : List String) :
    Except Failure (Place × Item) :=
  match steps with
  | [] =>
    match d.at? place with
    | some item => .ok (place, item)
    | none => .error .missing
  | name :: rest =>
    match d.at? place with
    | some (.dir items) =>
      if name = "." then step d follow links place rest
      else if name = ".." then step d follow links place.dropLast rest
      else match items.lookup name with
        | none => .error .missing
        | some (.link target) =>
          if rest.isEmpty && !follow then .ok (place ++ [name], .link target)
          else match links with
            | 0 => .error .tooManyLinks
            | links + 1 =>
              step d follow links (if Path.isAbsolute target then [] else place)
                (Path.parts target ++ rest)
        | some _ => step d follow links (place ++ [name]) rest
    | some _ => .error .notDirectory
    | none => .error .missing
termination_by (links, steps.length)

/-- Where the thing that a path names stands, and the thing; a link at the end is followed if
`follow` says so. -/
def locate (d : Disk) (path : String) (follow : Bool) : Except Failure (Place × Item) :=
  if path.isEmpty then .error .missing
  else step d follow linkLimit (if Path.isAbsolute path then [] else d.work) (Path.parts path)

/-- The text of the file that a path names. -/
def readText (d : Disk) (path : String) : Except Failure String :=
  match d.locate path true with
  | .error failure => .error failure
  | .ok (_, .file (some text)) => .ok text
  | .ok (_, .file none) => .error .notText
  | .ok (_, _) => .error .isDirectory

/-- Whether a path names anything. -/
def holds (d : Disk) (path : String) : Bool := (d.locate path true).toBool

/-! ## Changing a disk -/

/-- A disk with an item put at a place. -/
def putAt (d : Disk) (place : Place) (item : Item) : Disk :=
  match Item.put item place d.tree with
  | .dir items => { d with root := items }
  | _ => d

/-- Where a new item with a path is put: in the directory that the rest of the path leads to, or
where that directory is to be made. -/
def placeFor (d : Disk) (path : String) : Place :=
  let steps := (Path.parts path).filter (· ≠ ".")
  let start := if Path.isAbsolute path then [] else d.work
  match step d true linkLimit start steps.dropLast, steps.getLast? with
  | .ok (place, _), some name => place ++ [name]
  | .ok (place, _), none => place
  | .error _, _ => start ++ steps

/-- A disk with a file, directory or link put at a path.  Writing a file through a link to a file
changes the file that the link leads to. -/
def put (d : Disk) (path : String) (item : Item) : Disk :=
  match item, d.locate path true with
  | .file text, .ok (place, .file _) => d.putAt place (.file text)
  | .dir [], .ok (_, .dir _) => d
  | item, _ => d.putAt (d.placeFor path) item

/-- Makes the directories on the way along steps from a place, where they are missing. -/
def makeDirsFrom (d : Disk) (place : Place) : List String → Except Failure Disk
  | [] => .ok d
  | name :: rest =>
    if name = "." then makeDirsFrom d place rest
    else if name = ".." then makeDirsFrom d place.dropLast rest
    else
      let next := place ++ [name]
      match d.at? next with
      | none => makeDirsFrom (d.putAt next (.dir [])) next rest
      | some (.dir _) => makeDirsFrom d next rest
      | some (.file _) => .error (if rest.isEmpty then .taken else .notDirectory)
      | some (.link target) =>
        match step d true linkLimit (if Path.isAbsolute target then [] else place)
            (Path.parts target) with
        | .ok (found, .dir _) => makeDirsFrom d found rest
        | .ok (_, _) => .error (if rest.isEmpty then .taken else .notDirectory)
        | .error _ => .error .taken

/-- A disk with a directory at a path and directories on the way to it. -/
def makeDirs (d : Disk) (path : String) : Except Failure Disk :=
  makeDirsFrom d (if Path.isAbsolute path then [] else d.work) (Path.parts path)

/-- A disk without the item at a place. -/
def eraseAt (d : Disk) (place : Place) : Disk :=
  match d.tree.erase place with
  | .dir items => { d with root := items }
  | _ => d

/-- A disk without the item at a path. -/
def erase (d : Disk) (path : String) : Disk := d.eraseAt (d.placeFor path)

end Disk

end Showcase
