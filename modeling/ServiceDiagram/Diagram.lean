import ServiceDiagram.Model.Context
import ServiceDiagram.Text.Upper

/-!
# Class diagrams

The diagram of a context is a list of lines: a frame, a title, and for each service an empty line, a
header and what is drawn of it.  `Context.diagram` ends each line with a line feed.
-/

namespace ServiceDiagram

/-- lines as one text, each ended by a line feed -/
def unlines (lines : List String) : String := String.join (lines.map (· ++ "\n"))

/-- the line of an association of the service with this name; other kinds are not drawn -/
def Association.line? (name : String) (a : Association) : Option String :=
  let text := a.text.getD ""
  match a.kind with
  | .directed => some (name ++ " -r-> " ++ a.target ++ " : " ++ text)
  | .contains => some (name ++ " -r-* " ++ a.target)
  | .aggregation =>
    some (name ++ " \"" ++ a.localMultiplicity.getD "" ++ "\" -r-o \"" ++
      a.remoteMultiplicity.getD "" ++ "\" " ++ a.target ++ " : " ++ text)
  | .implements => some (name ++ " --() " ++ a.target)
  | .inherits => some (name ++ " -[hidden]r> " ++ a.target)
  | .other _ => none

namespace Service

/-- the type of a service in upper case, empty if it has none -/
def upperKind (s : Service) : String := (s.kind.map Text.upper).getD ""

def headerLine (s : Service) : String := "' " ++ s.name ++ " : " ++ s.upperKind

def stereotypeLine? (s : Service) : Option String :=
  s.stereotype.map fun st => "class " ++ s.name ++ " << " ++ st ++ " >>"

def parents (s : Service) : List String := (s.associationsOf .inherits).map (·.target)

def inheritsLine? (s : Service) : Option String :=
  if s.parents.isEmpty then none
  else some ("class " ++ s.name ++ " extends " ++ ", ".intercalate s.parents)

def associationLines (s : Service) : List String := s.associations.filterMap (·.line? s.name)

def lines (s : Service) : List String :=
  s.headerLine :: (s.stereotypeLine?.toList ++ s.inheritsLine?.toList ++ s.associationLines)

/-- the part of the diagram that draws a service -/
def block (s : Service) : String := unlines s.lines

end Service

namespace Context

def titleLine (c : Context) : String := "title " ++ c.name ++ " (" ++ c.framework.label ++ ")"

def lines (c : Context) : List String :=
  "@startuml" :: c.titleLine :: (c.services.flatMap (fun s => "" :: s.lines) ++ ["@enduml"])

def diagram (c : Context) : String := unlines c.lines

end Context

end ServiceDiagram
