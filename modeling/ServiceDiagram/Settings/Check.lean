import ServiceDiagram.Fault
import ServiceDiagram.Settings.Basic
import ServiceDiagram.Url.Reader

/-!
# Checking settings

* `checkServer`     the address of a server is one of `http` or `https`;
* `checkPath`       a path is not empty and has no NUL;
* `checkFileName`   the name of a file is a path that does not lead out of its directory;
* `check`           settings have such values, and the diagram does not overwrite the document.
-/

namespace ServiceDiagram.Settings

abbrev Check := Except Fault Unit

def checkServer (field value : String) : Check :=
  if value.isEmpty then .error (.settingValue field value "URL cannot be empty")
  else match Url.schemeOf value with
    | .error fault => .error (.settingValue field value ("Invalid URL format: " ++ fault.message))
    | .ok scheme =>
      if scheme = "http" ∨ scheme = "https" then .ok ()
      else .error (.settingValue field value ("Unsupported URL scheme: " ++ scheme))

def checkPath (field value : String) : Check :=
  if value.isEmpty then .error (.settingValue field value "Path cannot be empty")
  else if value.toList.contains '\x00' then
    .error (.settingValue field value "Path contains null bytes")
  else .ok ()

/-- a name that leads to another directory -/
def leadsOut (name : String) : Bool :=
  name.toList.contains '/' || name.toList.contains '\\' || name == ".."

def checkFileName (field value : String) : Check := do
  checkPath field value
  if leadsOut value then
    throw (.settingValue field value "File name must not contain path separators")

def required {α : Type} (field : String) : Option α → Except Fault α
  | some a => .ok a
  | none => .error (.missing field)

def check (s : Settings) : Check := do
  checkServer "renderer.server" s.server
  checkPath "output.dir" s.dir
  checkFileName "output.data_file" s.dataFile
  checkFileName "output.diagram_file" s.diagramFile
  if s.dataFile = s.diagramFile then
    throw (.settingValue "output.diagram_file" s.diagramFile
      "Diagram file would overwrite the data file")

end ServiceDiagram.Settings
