import ServiceDiagram.Payload.Link

/-!
# Settings

Where the files of a run are, which server draws, and whether its drawing is downloaded.
-/

namespace ServiceDiagram

structure Settings where
  /-- the directory of all files -/
  dir : String
  /-- the file of the document -/
  dataFile : String
  /-- the file of the diagram -/
  diagramFile : String
  server : String
  variant : Variant
  download : Bool
  deriving DecidableEq, Repr

/-- the settings of a run that is told nothing -/
def Settings.default : Settings where
  dir := "./dist"
  dataFile := "data.json"
  diagramFile := "service-package.puml"
  server := Link.defaultServer
  variant := .picture
  download := false

end ServiceDiagram
