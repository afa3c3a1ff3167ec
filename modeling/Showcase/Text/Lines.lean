/-!
# Lines of a text

A line ends at a line feed, and a carriage return right before it belongs to the ending.  The end
of the text ends a line that is not empty.  So a text that ends with a line feed has no empty last
line, and the empty text has no line at all.
-/

namespace Showcase.Text

/-- The stretches between line feeds, at least one. -/
def segments (cs : List Char) : List (List Char) :=
  cs.foldr (fun c acc => if c = '\n' then [] :: acc else
    match acc with
    | seg :: segs => (c :: seg) :: segs
    | [] => [[c]]) [[]]

/-- A line without the carriage return at its end. -/
def dropReturn (line : List Char) : List Char :=
  match line.getLast? with
  | some '\r' => line.dropLast
  | _ => line

/-- The lines of a list of characters. -/
def lineChars (cs : List Char) : List (List Char) :=
  let segs := segments cs
  let ended := segs.dropLast.map dropReturn
  match segs.getLast? with
  | none | some [] => ended
  | some rest => ended ++ [rest]

/-- The lines of a text. -/
def lines (s : String) : List String := (lineChars s.toList).map String.ofList

/-- The number of lines of a text. -/
def lineCount (s : String) : Nat := (lineChars s.toList).length

end Showcase.Text
