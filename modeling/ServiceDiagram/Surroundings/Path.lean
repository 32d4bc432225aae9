import ServiceDiagram.Text.Parts

/-!
# Paths

A path is a list of names with slashes between them.  `.` is the directory where the path has led so
far and `..` the one around it.
-/

namespace ServiceDiagram

structure Path where
  /-- whether it starts at the root -/
  absolute : Bool
  names : List String
  /-- whether a slash behind the last name asks for a directory -/
  closed : Bool
  deriving DecidableEq, Repr

namespace Path

/-- the path that a text spells; slashes side by side are one -/
def ofText (s : String) : Path where
  absolute := s.toList.head? == some '/'
  names := ((Text.parts '/' s.toList).filter fun p => !p.isEmpty).map String.ofList
  closed := s.toList.getLast? == some '/'

/-- a path seen from a base; an absolute one does not depend on it -/
def join (base path : String) : String :=
  if path.toList.head? = some '/' ∨ base.isEmpty ∨ base.toList.getLast? = some '/' then
    if path.toList.head? = some '/' then path else base ++ path
  else base ++ "/" ++ path

/-- the names without a `.` that leads nowhere -/
def steps (p : Path) : List String :=
  match p.absolute, p.names with
  | false, "." :: rest => "." :: rest.filter (· != ".")
  | _, names => names.filter (· != ".")

/-- the names of the directory around the path -/
def outer (p : Path) : List String := p.steps.dropLast

end Path

end ServiceDiagram
