import ServiceDiagram.Json.Write
import ServiceDiagram.Model.Context
import ServiceDiagram.Text.Utf8

/-!
# Writing a document

Fields come in the order of the model; optional ones that are absent are left out, and so is a list
of associations that is empty.
-/

namespace ServiceDiagram.Document

open Json

/-- the member of an optional text -/
def optionalMember (key : String) (value : Option String) : List (List Char) :=
  (value.map fun s => writeMember key (writeText s)).toList

def writeAssociation (a : Association) : List Char :=
  writeObject
    ([writeMember "associationType" (writeText a.kind.label),
        writeMember "type" (writeText a.target)] ++
      optionalMember "text" a.text ++
      optionalMember "localMultiplicity" a.localMultiplicity ++
      optionalMember "remoteMultiplicity" a.remoteMultiplicity)

def writeService (s : Service) : List Char :=
  writeObject
    ([writeMember "serviceName" (writeText s.name)] ++
      optionalMember "type" s.kind ++
      optionalMember "stereotype" s.stereotype ++
      if s.associations.isEmpty then []
      else [writeMember "associations" (writeList (s.associations.map writeAssociation))])

def writeContext (c : Context) : List Char :=
  writeObject
    [writeMember "serviceContextName" (writeText c.name),
      writeMember "serviceContextFramework" (writeText c.framework.label),
      writeMember "services" (writeList (c.services.map writeService))]

/-- the document of a context, as text -/
def text (c : Context) : String := String.ofList (writeContext c)

def write (c : Context) : Bytes := Text.encode (text c)

end ServiceDiagram.Document
