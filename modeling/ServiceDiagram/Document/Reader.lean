import ServiceDiagram.Json.Record
import ServiceDiagram.Model.Context

/-!
# Reading a document

A document is a context.  Only the name of a service must be given; a framework that is not known is
read as the first one, and a kind that is not known keeps its label.
-/

namespace ServiceDiagram.Document

open Json

def associationShape : Shape Association where
  title := "struct Association"
  start := .new (.other "") ""
  fields :=
    [.text "associationType" false fun a s => { a with kind := .ofLabel s },
      .text "type" false fun a s => { a with target := s },
      .optional "text" fun a s => { a with text := s },
      .optional "localMultiplicity" fun a s => { a with localMultiplicity := s },
      .optional "remoteMultiplicity" fun a s => { a with remoteMultiplicity := s }]

def serviceShape : Shape Service where
  title := "struct Service"
  start := .new ""
  fields :=
    [.text "serviceName" true fun s name => { s with name := name },
      .optional "type" fun s kind => { s with kind := kind },
      .optional "stereotype" fun s stereotype => { s with stereotype := stereotype },
      .list "associations" (readRecord associationShape) fun s as => { s with associations := as }]

def contextShape : Shape Context where
  title := "struct ServiceContext"
  start := .empty
  fields :=
    [.text "serviceContextName" false fun c name => { c with name := name },
      .text "serviceContextFramework" false fun c label => { c with framework := .ofLabel label },
      .list "services" (readRecord serviceShape) fun c services => { c with services := services }]

def read (bs : Bytes) : Except Json.Fault Context := readWhole contextShape bs

end ServiceDiagram.Document
