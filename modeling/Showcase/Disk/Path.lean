/-!
# Paths

A path is a text with `/` between its names.  Joining never removes anything, so a path shows how
it was found; `Path.parts` is what the system makes of it.
-/

namespace Showcase.Disk.Path

/-- The stretches of a list of characters between slashes, at least one. -/
def split (cs : List Char) : List (List Char) :=
  cs.foldr (fun c acc => if c = '/' then [] :: acc else
    match acc with
    | part :: parts => (c :: part) :: parts
    | [] => [[c]]) [[]]

/-- Whether a path starts at the root. -/
def isAbsolute (path : String) : Bool := path.toList.head? == some '/'

/-- The steps of a path: its names, where a slash at the end asks for a directory as `.` does. -/
def parts (path : String) : List String :=
  let cs := path.toList
  let names := ((split cs).filter (· ≠ [])).map String.ofList
  if cs.getLast? = some '/' then names ++ ["."] else names

/-- A path continued by another one: an absolute one replaces it. -/
def join (path name : String) : String :=
  if isAbsolute name || path.isEmpty then name
  else if path.toList.getLast? = some '/' then path ++ name
  else path ++ "/" ++ name

/-- The last name of a path, if it is neither a step up nor the root. -/
def fileName? (path : String) : Option String :=
  match ((parts path).filter (· ≠ ".")).getLast? with
  | some ".." | none => none
  | some name => some name

/-- What follows the last point of a name, unless that point is the first character. -/
def nameExtension? (name : List Char) : Option (List Char) :=
  let after := name.reverse.takeWhile (· ≠ '.')
  if after.length + 1 < name.length then some after.reverse else none

/-- What follows the last point of the last name of a path. -/
def extension? (path : String) : Option String :=
  (fileName? path).bind fun name => (nameExtension? name.toList).map String.ofList

end Showcase.Disk.Path
