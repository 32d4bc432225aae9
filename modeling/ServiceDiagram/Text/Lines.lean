/-!
# Lines of a text

Lines are separated by line feeds; a line feed at the end of the text starts no further line.  A
carriage return in front of a line feed belongs to it.
-/

namespace ServiceDiagram.Text

/-- a line without the carriage return that stands in front of its line feed -/
def dropReturn (line : List Char) : List Char :=
  match line.getLast? with
  | some '\r' => line.dropLast
  | _ => line

/-- the lines of a list of characters; `line` holds the current one, last character first -/
def splitLines (line : List Char) : List Char → List (List Char)
  | [] => if line.isEmpty then [] else [line.reverse]
  | c :: rest =>
    if c = '\n' then dropReturn line.reverse :: splitLines [] rest else splitLines (c :: line) rest

def lines (s : String) : List String := (splitLines [] s.toList).map String.ofList

end ServiceDiagram.Text
