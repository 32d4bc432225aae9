import ServiceDiagram.Model.Association
import ServiceDiagram.Model.Framework
import ServiceDiagram.Text.Blank

/-!
# Services and their context

A context is a named group of services.  Services are looked up by name, and adding a service whose
name is taken changes nothing.
-/

namespace ServiceDiagram

structure Service where
  name : String
  kind : Option String
  stereotype : Option String
  associations : List Association
  deriving DecidableEq, Repr

namespace Service

def new (name : String) : Service := ⟨name, none, none, []⟩

def associationsOf (s : Service) (kind : AssociationKind) : List Association :=
  s.associations.filter (·.kind = kind)

def associate (s : Service) (a : Association) : Service :=
  { s with associations := s.associations ++ [a] }

end Service

structure Context where
  name : String
  framework : Framework
  services : List Service
  deriving DecidableEq, Repr

namespace Context

def defaultName : String := "default"

/-- a context without services; a blank name counts as none -/
def new (name : String) (framework : Framework) : Context :=
  ⟨if Text.isBlankText name then defaultName else name, framework, []⟩

def empty : Context := new defaultName .grpc

def find? (c : Context) (name : String) : Option Service := c.services.find? (·.name == name)

def serviceNames (c : Context) : List String := c.services.map (·.name)

def has (c : Context) (name : String) : Bool := (c.find? name).isSome

/-- the context with one more service at the end, `none` if the name is taken -/
def add? (c : Context) (s : Service) : Option Context :=
  if c.has s.name then none else some { c with services := c.services ++ [s] }

/-- the services with the first one of a name changed, `none` if there is none -/
def changeFirst? (name : String) (f : Service → Service) : List Service → Option (List Service)
  | [] => none
  | s :: rest =>
    if s.name == name then some (f s :: rest) else (changeFirst? name f rest).map (s :: ·)

/-- the context with the first service of a name changed, `none` if there is none -/
def change? (c : Context) (name : String) (f : Service → Service) : Option Context :=
  (changeFirst? name f c.services).map fun services => { c with services := services }

end Context

end ServiceDiagram
